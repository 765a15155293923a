import OrmCode.Sql.Token

/-!
# Trees of SQL

What a statement reads, writes or computes keeps its structure as far as code
may be made of it.  Everything else is kept as text in a normal form: keywords
in capitals, single spaces, names and numbers as they were written.
-/

namespace OrmCode

namespace Sql

/-- A name with the quote it was written in. -/
structure Name where
  text : String
  quote? : Option Char := none
  deriving DecidableEq

namespace Name

def write (name : Name) : String :=
  match name.quote? with
  | none => name.text
  | some '[' => "[" ++ name.text ++ "]"
  | some quote => betweenQuotes quote name.text

end Name

/-- A name with qualifiers before it, outermost first. -/
abbrev QualifiedName := List Name

def writeQualified (name : QualifiedName) : String :=
  ".".intercalate (name.map Name.write)

inductive Value
  | number (numeral : String) (long : Bool)
  | string (form : StringForm) (text : String)
  | boolean (value : Bool)
  | null
  | placeholder (text : String)
  deriving DecidableEq

namespace Value

def write : Value → String
  | number numeral long => numeral ++ (if long then "L" else "")
  | string form text => form.write text
  | boolean true => "true"
  | boolean false => "false"
  | null => "NULL"
  | placeholder text => text

end Value

inductive BinaryOperator
  | and
  | or
  | plus
  | minus
  | multiply
  | divide
  | modulo
  | concatenate
  | other (token : String)
  deriving DecidableEq

namespace BinaryOperator

def write : BinaryOperator → String
  | and => "AND"
  | or => "OR"
  | plus => "+"
  | minus => "-"
  | multiply => "*"
  | divide => "/"
  | modulo => "%"
  | concatenate => "||"
  | other token => token

/-- Whether the operator computes a number or a text. -/
def isArithmetic : BinaryOperator → Bool
  | plus | minus | multiply | divide | modulo | concatenate => true
  | _ => false

end BinaryOperator

inductive PatternKind
  | like
  | ilike
  deriving DecidableEq

namespace PatternKind

def write : PatternKind → String
  | like => "LIKE"
  | ilike => "ILIKE"

end PatternKind

/-- An expression.  Forms that code is never made of are kept as text. -/
inductive Expr
  | column (name : QualifiedName)
  | value (constant : Value)
  | not (operand : Expr)
  | minus (operand : Expr)
  | binary (operator : BinaryOperator) (left right : Expr)
  | nested (inner : Expr)
  | like (kind : PatternKind) (negated any : Bool) (subject pattern : Expr)
      (escape? : Option String)
  | inList (negated : Bool) (subject : Expr) (items : List Expr)
  | between (negated : Bool) (subject low high : Expr)
  | isNull (negated : Bool) (subject : Expr)
  | call (function : QualifiedName) (rest : String)
  | subquery (query : String)
  | other (text : String)

/-- The word that negates what follows, with the blank after it. -/
def negation (negated : Bool) : String :=
  if negated then "NOT " else ""

def commaSeparated (items : List String) : String :=
  ", ".intercalate items

def parenthesized (text : String) : String :=
  "(" ++ text ++ ")"

namespace Expr

def write : Expr → String
  | column name => writeQualified name
  | value constant => constant.write
  | not operand => "NOT " ++ operand.write
  | minus operand => "-" ++ operand.write
  | binary operator left right => left.write ++ " " ++ operator.write ++ " " ++ right.write
  | nested inner => parenthesized inner.write
  | like kind negated any subject pattern escape? =>
    subject.write ++ " " ++ negation negated ++ kind.write ++ " " ++
      (if any then "ANY " else "") ++ pattern.write ++
      (escape?.elim "" fun escape => " ESCAPE '" ++ escape ++ "'")
  | inList negated subject items =>
    subject.write ++ " " ++ negation negated ++ "IN " ++
      parenthesized (commaSeparated (writeAll items))
  | between negated subject low high =>
    subject.write ++ " " ++ negation negated ++ "BETWEEN " ++ low.write ++ " AND " ++ high.write
  | isNull negated subject => subject.write ++ " IS " ++ negation negated ++ "NULL"
  | call function rest => writeQualified function ++ rest
  | subquery query => parenthesized query
  | other text => text
where
  /-- The written forms of several expressions. -/
  writeAll : List Expr → List String
    | [] => []
    | item :: items => item.write :: writeAll items

end Expr

inductive SelectItem
  | unnamed (expression : Expr)
  | aliased (expression : Expr) (label : Name)
  | everything (options : String)
  | everythingOf (table : QualifiedName) (options : String)

namespace SelectItem

def write : SelectItem → String
  | unnamed expression => expression.write
  | aliased expression label => expression.write ++ " AS " ++ label.write
  | everything options => "*" ++ options
  | everythingOf table options => writeQualified table ++ ".*" ++ options

end SelectItem

/-- A table by name with everything that may follow it, or another source of rows. -/
inductive TableFactor
  | named (name : QualifiedName) (arguments : String) (alias? : Option Name)
      (aliasColumns : String) (hints : String)
  | other (text : String) (isJoin : Bool)

namespace TableFactor

/-- The written form of a source of rows. -/
def write : TableFactor → String
  | named name arguments alias? aliasColumns hints =>
    writeQualified name ++ arguments ++
      (alias?.elim "" fun label => " AS " ++ label.write ++ aliasColumns) ++ hints
  | other text _ => text

end TableFactor

/-- A source of rows with what is joined to it. -/
structure TableReference where
  relation : TableFactor
  joins : List String := []

namespace TableReference

/-- The written form of a source of rows with its joins. -/
def write (reference : TableReference) : String :=
  reference.relation.write ++ "".intercalate reference.joins

end TableReference

/-- One expression to sort by. -/
structure OrderItem where
  expression : Expr
  direction? : Option Bool := none
  options : String := ""

namespace OrderItem

/-- The written form of an expression to sort by. -/
def write (item : OrderItem) : String :=
  item.expression.write ++
    (match item.direction? with
      | none => ""
      | some true => " ASC"
      | some false => " DESC") ++ item.options

end OrderItem

/-- A SELECT without what surrounds it.  Each clause that code is never made of
is kept as the text it adds, empty when the clause is absent. -/
structure Select where
  kind : String := ""
  distinct : String := ""
  top : String := ""
  topFirst : Bool := false
  items : List SelectItem
  into : String := ""
  sources : List TableReference := []
  lateralViews : String := ""
  prewhere : String := ""
  condition? : Option Expr := none
  groupBy : String := ""
  distribution : String := ""
  having : String := ""
  windows : String := ""
  hierarchy : String := ""

namespace Select

def write (select : Select) : String :=
  "SELECT" ++ select.kind ++
    (if select.topFirst then select.top ++ select.distinct else select.distinct ++ select.top) ++
    " " ++ commaSeparated (select.items.map SelectItem.write) ++ select.into ++
    (if select.sources.isEmpty then ""
      else " FROM " ++ commaSeparated (select.sources.map TableReference.write)) ++
    select.lateralViews ++ select.prewhere ++
    (select.condition?.elim "" fun condition => " WHERE " ++ condition.write) ++
    select.groupBy ++ select.distribution ++ select.having ++ select.windows ++ select.hierarchy

end Select

/-- The main part of a query. -/
inductive QueryBody
  | select (selection : Select)
  | values (explicitRows : Bool) (rows : List (List Expr))
  | other (text : String)

namespace QueryBody

/-- The written form of the main part of a query. -/
def write : QueryBody → String
  | select selection => selection.write
  | values explicitRows rows =>
    "VALUES " ++ commaSeparated (rows.map fun row =>
      (if explicitRows then "ROW" else "") ++ parenthesized (commaSeparated (row.map Expr.write)))
  | other text => text

end QueryBody

structure Query where
  commonTables : String := ""
  body : QueryBody
  order : List OrderItem := []
  interpolation : String := ""
  limit? : Option Expr := none
  offset? : Option Expr := none
  offsetUnit : String := ""
  limitBy : String := ""
  parameters : String := ""
  fetch : String := ""
  locks : String := ""
  form : String := ""

namespace Query

def write (query : Query) : String :=
  query.commonTables ++ query.body.write ++
    (if query.order.isEmpty then ""
      else " ORDER BY " ++ commaSeparated (query.order.map OrderItem.write)) ++
    query.interpolation ++
    (query.limit?.elim "" fun limit => " LIMIT " ++ limit.write) ++
    (query.offset?.elim "" fun offset => " OFFSET " ++ offset.write ++ query.offsetUnit) ++
    query.limitBy ++ query.parameters ++ query.fetch ++ query.locks ++ query.form

end Query

/-- The column or columns that an assignment sets. -/
inductive AssignmentTarget
  | column (name : QualifiedName)
  | tuple (names : List QualifiedName)

structure SetClause where
  target : AssignmentTarget
  value : Expr

/-- An INSERT.  Flags and texts say which further clauses it has. -/
structure Insert where
  conflict : Bool := false
  ignoring : Bool := false
  replacing : Bool := false
  overwriting : Bool := false
  table : QualifiedName
  alias? : Option Name := none
  columns : List Name := []
  partition : String := ""
  columnsAfterPartition : List Name := []
  source? : Option Query := none
  rowAlias? : Option QualifiedName := none
  onDuplicate : Bool := false
  returning : Bool := false

structure UpdateStatement where
  conflict : Bool := false
  table : TableReference
  assignments : List SetClause
  hasFrom : Bool := false
  condition? : Option Expr := none
  returning : Bool := false

structure DeleteStatement where
  tables : List QualifiedName := []
  sources : List TableReference
  hasUsing : Bool := false
  condition? : Option Expr := none
  returning : Bool := false
  order : List OrderItem := []
  limit? : Option Expr := none

/-- An option of a column.  PRIMARY KEY is UNIQUE with a flag, an option that only some dialects
have is kept as its tokens, and a generated value has an expression unless it is an identity. -/
inductive ColumnOption
  | null
  | notNull
  | default (expression : Expr)
  | unique (isPrimary : Bool)
  | dialectSpecific (tokens : List Token)
  | generated (expression? : Option Expr)
  | other

structure ColumnDefinition where
  name : Name
  type : String
  options : List ColumnOption := []

inductive TableConstraint
  | primaryKey (columns : List Name)
  | other

structure CreateTable where
  name : QualifiedName
  columns : List ColumnDefinition := []
  constraints : List TableConstraint := []
  like? : Option QualifiedName := none
  query? : Option Query := none

/-- A statement; of kinds that no code is made of only the first word is kept. -/
inductive ParsedStatement
  | create (definition : CreateTable)
  | insert (insertion : Insert)
  | query (query : Query)
  | update (change : UpdateStatement)
  | delete (deletion : DeleteStatement)
  | other (firstWord : String)

end Sql

end OrmCode
