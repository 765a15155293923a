import OrmCode.Code.Context
import OrmCode.Statement.Rendering
import OrmCode.Text.Identifier

/-!
# Code for SQLAlchemy

A table becomes a declarative class and every other statement a call on the
session.  Filters are expressions over the attributes of the class.
-/

namespace OrmCode

namespace SqlAlchemy

/-- The Python spelling of a constant. -/
def literal : Literal → String
  | .string value => Text.quoted value
  | .number numeral => numeral
  | .boolean true => "True"
  | .boolean false => "False"
  | .null => "None"

/-- A list of already rendered items. -/
def list (items : List String) : String :=
  "[" ++ ", ".intercalate items ++ "]"

/-- The call of a function on already rendered arguments. -/
def call (function : String) (arguments : List String) : String :=
  function ++ "(" ++ ", ".intercalate arguments ++ ")"

/-- What a column is compared with. -/
def operand : Operand → String
  | .single value => literal value
  | .list values => list (values.map literal)

def attributeOf (model column : String) : String :=
  model ++ "." ++ Text.pythonIdentifier column

/-- The fault of two columns that would share an attribute. -/
def collision (table owner column : String) : Fault :=
  .unsupportedConstruct ("columns '" ++ owner ++ "' and '" ++ column ++ "' of " ++ table ++
    " both map to Python attribute '" ++ Text.pythonIdentifier column ++ "'")

/-- The attributes of columns in order, where `owners` holds the columns that
own an attribute already.  Two different columns never share an attribute. -/
def attributesOwned (table : String) (owners : List (String × String)) :
    List String → Except Fault (List String)
  | [] => .ok []
  | column :: columns =>
    let name := Text.pythonIdentifier column
    match owners.lookup name with
    | some owner =>
      if owner = column then
        (attributesOwned table owners columns).map (name :: ·)
      else
        .error (collision table owner column)
    | none => (attributesOwned table ((name, column) :: owners) columns).map (name :: ·)

def attributeNames (table : String) (columns : List String) : Except Fault (List String) :=
  attributesOwned table [] columns

inductive OperatorForm
  | between (token : String)
  | method (name : String)
  deriving DecidableEq

def operatorForm? : Comparator → Option OperatorForm
  | .equal => some (.between "==")
  | .different => some (.between "!=")
  | .greater => some (.between ">")
  | .atLeast => some (.between ">=")
  | .less => some (.between "<")
  | .atMost => some (.between "<=")
  | .like => some (.method "like")
  | .notLike => some (.method "not_like")
  | .among => some (.method "in_")
  | .notAmong => some (.method "not_in")
  | .identical => some (.method "is_")
  | .notIdentical => some (.method "is_not")
  | .other _ => none

/-- A comparison is an operator between two sides, a method of the attribute,
or a call of the operator that has neither. -/
def comparison (context : Context) (model : String) (leaf : Comparison) : Except Fault String :=
  let column := attributeOf model leaf.column
  let value := operand leaf.operand
  match operatorForm? leaf.comparator with
  | some (.between token) => .ok (column ++ " " ++ token ++ " " ++ value)
  | some (.method name) => .ok (call (column ++ "." ++ name) [value])
  | none => do
    context.checkOperator .sqlAlchemy leaf.column leaf.comparator.sql
    return call (call (column ++ ".op") [Text.quoted leaf.comparator.sql]) [value]

/-- The function that joins the operands of a group. -/
def connectiveFunction : Connective → String
  | .conjunction => "and_"
  | .disjunction => "or_"

def renderer (context : Context) (model : String) : Filter.Renderer Fault where
  comparison := comparison context model
  combine connective operands := call (connectiveFunction connective) operands
  negate negated := call "not_" [negated]

/-- The call that filters a query, or nothing without a filter. -/
def filterCall (context : Context) (model : String) : Option Filter → Except Fault String
  | none => .ok ""
  | some filter => (filter.render (renderer context model)).map fun rendered =>
    call ".filter" [rendered]

def query (entities : List String) : String :=
  call "session.query" entities

/-- The end of code that changes the database. -/
def committed (code : String) : String :=
  code ++ "\nsession.commit()"

def defaultClause : DefaultValue → String
  | .literal value => "default=" ++ literal value
  | .currentTimestamp => "server_default=func.now()"
  | .expression sql => "server_default=" ++ call "text" [Text.quoted sql]

/-- The arguments of a column with an attribute and a type; a name that differs
from the attribute is given explicitly. -/
def columnArguments (column : Column) (name type : String) : List String :=
  (if name = column.name then [] else [Text.quoted column.name]) ++ [type] ++
    (if column.nullable then [] else ["nullable=False"]) ++
    (if column.primaryKey then ["primary_key=True"] else []) ++
    (if column.autoIncrement then ["autoincrement=True"] else []) ++
    (if column.unique then ["unique=True"] else []) ++
    column.default?.toList.map defaultClause

/-- The line that defines a column. -/
def field (context : Context) (column : Column) (name : String) : Except Fault String := do
  let type ← context.columnType column
  return "    " ++ name ++ " = " ++ call "Column" (columnArguments column name type)

def definition (context : Context) (table : TableDefinition) : Except Fault String := do
  table.validate.mapError Statement.Flaw.fault
  let names ← attributeNames table.table (table.columns.map Column.name)
  let fields ← (table.columns.zip names).mapM fun (column, name) => field context column name
  return "\n".intercalate
    (["class " ++ Text.pythonIdentifier table.table ++ "(Base):",
      "    __tablename__ = " ++ Text.quoted table.table, ""] ++ fields)

def record (model : String) (names : List String) (row : List Literal) : String :=
  call model ((names.zip row).map fun (name, value) => name ++ "=" ++ literal value)

/-- The addition of one or of several objects. -/
def insertion (inserted : Insertion) : Except Fault String := do
  inserted.validate.mapError Statement.Flaw.fault
  let names ← attributeNames inserted.table inserted.columns
  return match inserted.rows.map (record (Text.pythonIdentifier inserted.table) names) with
    | [only] => committed (call "session.add" [only])
    | records =>
      committed ("session.add_all([\n    " ++ ",\n    ".intercalate records ++ ",\n])")

/-- One column to sort by. -/
def sortKey (model : String) (key : SortKey) : String :=
  attributeOf model key.column ++ (if key.ascending then "" else ".desc()")

/-- The rest of a query after its filter. -/
def queryTail (model : String) (selected : Selection) : String :=
  (if selected.order.isEmpty then ""
    else call ".order_by" (selected.order.map (sortKey model))) ++
    (selected.limit?.elim "" fun count => call ".limit" [toString count]) ++
    (selected.offset?.elim "" fun count => call ".offset" [toString count]) ++ ".all()"

/-- A query for all matching objects, or for some of their attributes. -/
def selection (context : Context) (selected : Selection) : Except Fault String := do
  let model := Text.pythonIdentifier selected.table
  let entities :=
    if selected.columns.isEmpty then [model] else selected.columns.map (attributeOf model)
  let filter ← filterCall context model selected.filter?
  return query entities ++ filter ++ queryTail model selected

def changeSign : Change → String
  | .addition => " + "
  | .subtraction => " - "

/-- The new value of a column. -/
def assignedValue (model : String) : AssignedValue → String
  | .literal value => literal value
  | .changed column change amount =>
    attributeOf model column ++ changeSign change ++ literal amount

/-- An update of all matching objects. -/
def modification (context : Context) (updated : Update) : Except Fault String := do
  updated.validate.mapError Statement.Flaw.fault
  let model := Text.pythonIdentifier updated.table
  let names ← attributeNames updated.table (updated.assignments.map Assignment.column)
  let values := (names.zip updated.assignments).map fun (name, assignment) =>
    Text.quoted name ++ ": " ++ assignedValue model assignment.value
  let filter ← filterCall context model updated.filter?
  return committed (query [model] ++ filter ++
    call ".update" ["\x7b" ++ ", ".intercalate values ++ "\x7d"])

/-- The deletion of all matching objects. -/
def deletion (context : Context) (deleted : Deletion) : Except Fault String := do
  let model := Text.pythonIdentifier deleted.table
  let filter ← filterCall context model deleted.filter?
  return committed (query [model] ++ filter ++ ".delete()")

def handler : StatementKind → Handler
  | .create => fun statement context =>
    match statement with
    | .create table => definition context table
    | _ => .error (context.unexpected statement)
  | .insert => fun statement context =>
    match statement with
    | .insert inserted => insertion inserted
    | _ => .error (context.unexpected statement)
  | .select => fun statement context =>
    match statement with
    | .select selected => selection context selected
    | _ => .error (context.unexpected statement)
  | .update => fun statement context =>
    match statement with
    | .update updated => modification context updated
    | _ => .error (context.unexpected statement)
  | .delete => fun statement context =>
    match statement with
    | .delete deleted => deletion context deleted
    | _ => .error (context.unexpected statement)

end SqlAlchemy

end OrmCode
