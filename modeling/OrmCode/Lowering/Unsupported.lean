import OrmCode.Fault
import OrmCode.Statement.Filter
import OrmCode.Text.Escaped

/-!
# What code is not made of

A parsed statement may hold constructs that no code is made of.  Each of them
has its own cause, and each cause its own wording.
-/

namespace OrmCode

namespace Lowering

/-- A clause, or a place of one, that no code is made of wherever it occurs. -/
inductive Clause
  | createAs
  | createLike
  | insertConflictTarget
  | insertIgnore
  | replaceInto
  | insertConflictAction
  | insertReturning
  | insertWithoutValues
  | insertNoRows
  | insertSelect
  | commonTables
  | fetch
  | setOperation
  | distinct
  | groupBy
  | having
  | top
  | noSource
  | manySources
  | join
  | otherSource
  | mixedWildcard
  | updateFrom
  | updateReturning
  | updateConflictAction
  | tupleAssignment
  | arithmeticStart
  | deleteManyTables
  | deleteUsing
  | deleteReturning
  | deleteOrder
  | deleteLimit
  | deleteNoTable
  | emptyTableName
  | emptyColumnName
  deriving DecidableEq

def Clause.text : Clause → String
  | createAs => "CREATE TABLE ... AS SELECT"
  | createLike => "CREATE TABLE ... LIKE"
  | insertConflictTarget => "INSERT ... ON DUPLICATE KEY / ON CONFLICT"
  | insertIgnore => "INSERT IGNORE"
  | replaceInto => "REPLACE INTO"
  | insertConflictAction => "INSERT OR <conflict action>"
  | insertReturning => "INSERT ... RETURNING"
  | insertWithoutValues => "INSERT without VALUES clause"
  | insertNoRows => "INSERT requires at least one VALUES row"
  | insertSelect => "INSERT ... SELECT (only VALUES is supported)"
  | commonTables => "WITH clause"
  | fetch => "FETCH clause"
  | setOperation => "UNION/INTERSECT/EXCEPT or VALUES query"
  | distinct => "SELECT DISTINCT"
  | groupBy => "GROUP BY"
  | having => "HAVING clause"
  | top => "TOP clause"
  | noSource => "SELECT without FROM"
  | manySources => "multiple tables (no JOINs)"
  | join => "JOIN"
  | otherSource => "FROM clause must name a table (no subqueries)"
  | mixedWildcard => "cannot mix * with other columns"
  | updateFrom => "UPDATE ... FROM"
  | updateReturning => "UPDATE ... RETURNING"
  | updateConflictAction => "UPDATE OR <conflict action>"
  | tupleAssignment => "tuple assignment in SET"
  | arithmeticStart => "arithmetic assignment must start with a column"
  | deleteManyTables => "multi-table DELETE"
  | deleteUsing => "DELETE ... USING"
  | deleteReturning => "DELETE ... RETURNING"
  | deleteOrder => "DELETE ... ORDER BY"
  | deleteLimit => "DELETE ... LIMIT"
  | deleteNoTable => "DELETE without table"
  | emptyTableName => "empty table name"
  | emptyColumnName => "empty column name"

/-- The reason why no code is made of a parsed statement. -/
inductive Unsupported
  | clause (which : Clause)
  | unknownKey (column : String)
  | foreignColumn (qualifier column table : String)
  | notColumn (expression : String)
  | notLiteral (expression : String)
  | negatedText (expression : String)
  | constant (written : String)
  | fraction (numeral : String)
  | notCount (value : Literal)
  | columnAlias (expression label : String)
  | arithmeticFilter (expression : String)
  | filterForm (expression : String)
  | assignmentOperator (operator : String)
  deriving DecidableEq

namespace Unsupported

/-- A constant with the name of its kind. -/
def shownLiteral : Literal → String
  | .string value => "String(" ++ Text.escaped value ++ ")"
  | .number numeral => "Number(" ++ Text.escaped numeral ++ ")"
  | .boolean true => "Boolean(true)"
  | .boolean false => "Boolean(false)"
  | .null => "Null"

def ticked (expression : String) : String :=
  "\x60" ++ expression ++ "\x60"

/-- The wording of a reason. -/
def text : Unsupported → String
  | clause which => which.text
  | unknownKey column => "PRIMARY KEY references unknown column '" ++ column ++ "'"
  | foreignColumn qualifier column table =>
    "column " ++ ticked (qualifier ++ "." ++ column) ++ " does not belong to table '" ++ table ++
      "'"
  | notColumn expression => "expected a column reference, got " ++ ticked expression
  | notLiteral expression => "expected a literal value, got " ++ ticked expression
  | negatedText expression => "negated non-numeric value " ++ ticked expression
  | constant written => "SQL value " ++ ticked written
  | fraction numeral => "LIMIT/OFFSET must be a whole number, got " ++ numeral
  | notCount value => "LIMIT/OFFSET must be a number, got " ++ shownLiteral value
  | columnAlias expression label =>
    "column alias " ++ ticked (expression ++ " AS " ++ label)
  | arithmeticFilter expression => "arithmetic in WHERE clause: " ++ ticked expression
  | filterForm expression => "WHERE clause expression " ++ ticked expression
  | assignmentOperator operator => "arithmetic operator " ++ ticked operator ++ " in SET"

def fault (reason : Unsupported) : Fault :=
  .unsupportedConstruct reason.text

end Unsupported

def refuseIf (present : Bool) (which : Clause) : Except Unsupported Unit :=
  if present then .error (.clause which) else .ok ()

end Lowering

end OrmCode
