import OrmCode.Text.Alphabetic
import OrmCode.Text.LetterCase

/-!
# Dialects of SQL

A dialect decides which characters make up a name, how names and strings are
quoted, and which constructs are read.  Every decision that the reader of SQL
takes about a dialect alone is stated here.
-/

namespace OrmCode

namespace Sql

/-- The dialects that statements can be written in. -/
inductive Dialect
  | generic
  | mysql
  | postgresql
  | hive
  | sqlite
  | snowflake
  | redshift
  | mssql
  | clickhouse
  | bigquery
  | ansi
  | duckdb
  | databricks
  deriving DecidableEq, Repr, Inhabited

namespace Dialect

/-- The names by which dialects are chosen, in small letters. -/
def names : List (String × Dialect) :=
  [("generic", generic), ("mysql", mysql), ("postgresql", postgresql), ("postgres", postgresql),
    ("hive", hive), ("sqlite", sqlite), ("snowflake", snowflake), ("redshift", redshift),
    ("mssql", mssql), ("clickhouse", clickhouse), ("bigquery", bigquery), ("ansi", ansi),
    ("duckdb", duckdb), ("databricks", databricks)]

/-- The dialect with a name, compared in small letters. -/
def ofName? (name : String) : Option Dialect :=
  names.lookup (String.ofList (name.toList.map Text.smallForm))

def isAmong (dialect : Dialect) (dialects : List Dialect) : Bool :=
  dialects.contains dialect

/-- A character from U+0080 to U+FFFF. -/
def isHighInPlane (lowest : Nat) (character : Char) : Bool :=
  lowest ≤ character.toNat && character.toNat ≤ 0xffff

/-- A character that may start a bare name. -/
def startsName (dialect : Dialect) (character : Char) : Bool :=
  match dialect with
  | generic | mssql =>
    Text.isAlphabetic character || character == '_' || character == '#' || character == '@'
  | mysql =>
    Text.isAlphabetic character || character == '_' || character == '$' || character == '@' ||
      isHighInPlane 0x80 character
  | postgresql | duckdb => Text.isAlphabetic character || character == '_'
  | redshift => Text.isAlphabetic character || character == '_' || character == '#'
  | hive => character.isAlphanum || character == '$'
  | sqlite =>
    character.isAlpha || character == '_' || character == '$' || isHighInPlane 0x7f character
  | snowflake | clickhouse | databricks => character.isAlpha || character == '_'
  | bigquery => character.isAlpha || character == '_' || character == '@'
  | ansi => character.isAlpha

/-- A character that may follow the first one of a bare name. -/
def continuesName (dialect : Dialect) (character : Char) : Bool :=
  match dialect with
  | generic | mssql =>
    Text.isAlphabetic character || character.isDigit || character == '@' || character == '$' ||
      character == '#' || character == '_'
  | mysql | sqlite => startsName dialect character || character.isDigit
  | postgresql | duckdb =>
    Text.isAlphabetic character || character.isDigit || character == '$' || character == '_'
  | redshift =>
    Text.isAlphabetic character || character.isDigit || character == '$' || character == '_' ||
      character == '#'
  | hive =>
    character.isAlphanum || character == '_' || character == '$' || character == '\x7b' ||
      character == '\x7d'
  | snowflake => character.isAlphanum || character == '$' || character == '_'
  | clickhouse | bigquery | ansi | databricks => character.isAlphanum || character == '_'

/-- A character that opens a quoted name. -/
def opensQuotedName (dialect : Dialect) (character : Char) : Bool :=
  match dialect with
  | mysql | bigquery | databricks => character == '\x60'
  | postgresql => character == '\x22'
  | mssql | redshift => character == '\x22' || character == '['
  | sqlite => character == '\x60' || character == '\x22' || character == '['
  | _ => character == '\x22' || character == '\x60'

/-- A backslash in a string takes the next character with it. -/
def backslashEscapes (dialect : Dialect) : Bool :=
  dialect.isAmong [mysql, bigquery, snowflake, clickhouse]

/-- Three quotes open a string that ends with three quotes. -/
def tripleQuotes (dialect : Dialect) : Bool :=
  dialect == bigquery

/-- A name may start with digits. -/
def digitsStartNames (dialect : Dialect) : Bool :=
  dialect.isAmong [mysql, hive]

/-- A hash sign starts a comment. -/
def hashComments (dialect : Dialect) : Bool :=
  dialect.isAmong [snowflake, bigquery, mysql, hive]

/-- A comma may stand after the last item of any list. -/
def trailingCommas (dialect : Dialect) : Bool :=
  dialect == duckdb

/-- A comma may stand after the last selected expression. -/
def selectionTrailingCommas (dialect : Dialect) : Bool :=
  dialect.isAmong [bigquery, duckdb, snowflake]

/-- A comma may stand between the counts of LIMIT, the offset first. -/
def limitComma (dialect : Dialect) : Bool :=
  dialect.isAmong [mysql, sqlite, clickhouse, generic]

/-- The list after IN may be empty. -/
def emptyInLists (dialect : Dialect) : Bool :=
  dialect == sqlite

/-- A row of VALUES and the column list of INSERT may be empty. -/
def emptyRows (dialect : Dialect) : Bool :=
  dialect == mysql

/-- An interval is a whole expression and must name its unit. -/
def intervalNeedsUnit (dialect : Dialect) : Bool :=
  dialect.isAmong [mysql, bigquery, ansi, clickhouse, databricks, hive]

/-- A lambda may be an argument of a function. -/
def lambdaFunctions (dialect : Dialect) : Bool :=
  dialect.isAmong [clickhouse, databricks]

/-- Aggregates may carry a FILTER clause. -/
def filterDuringAggregation (dialect : Dialect) : Bool :=
  dialect.isAmong [generic, hive, sqlite, postgresql, duckdb, databricks, ansi]

/-- GROUP BY knows sets, cubes, rollups and the empty tuple. -/
def groupingSets (dialect : Dialect) : Bool :=
  dialect.isAmong [generic, postgresql, duckdb, hive, redshift, databricks, clickhouse]

/-- CREATE TABLE may be followed by a query without AS. -/
def createTableSelect (dialect : Dialect) : Bool :=
  dialect.isAmong [mysql, generic]

/-- TRUE and FALSE are values and not names. -/
def booleanLiterals (dialect : Dialect) : Bool :=
  dialect != mssql

end Dialect

end Sql

end OrmCode
