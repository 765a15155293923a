import OrmCode.Code.Context
import OrmCode.Statement.Rendering
import OrmCode.Text.Identifier

/-!
# Code for Sequelize

A table becomes a model definition and every other statement a call of one of
the model's methods.  Filters are objects keyed by operators.
-/

namespace OrmCode

namespace Sequelize

/-- The JavaScript spelling of a constant. -/
def literal : Literal → String
  | .string value => Text.quoted value
  | .number numeral => numeral
  | .boolean true => "true"
  | .boolean false => "false"
  | .null => "null"

/-- An array of already rendered items. -/
def array (items : List String) : String :=
  "[" ++ ", ".intercalate items ++ "]"

/-- An object of already rendered keys and values. -/
def object (entries : List (String × String)) : String :=
  if entries.isEmpty then
    "\x7b\x7d"
  else
    "\x7b " ++ ", ".intercalate (entries.map fun (key, value) => key ++ ": " ++ value) ++ " \x7d"

/-- What a column is compared with. -/
def operand : Operand → String
  | .single value => literal value
  | .list values => array (values.map literal)

/-- The name of an operator among the operators of the library. -/
def operatorName? : Comparator → Option String
  | .equal => some "eq"
  | .different => some "ne"
  | .greater => some "gt"
  | .atLeast => some "gte"
  | .less => some "lt"
  | .atMost => some "lte"
  | .like => some "like"
  | .notLike => some "notLike"
  | .among => some "in"
  | .notAmong => some "notIn"
  | .identical => some "is"
  | .notIdentical => some "not"
  | .other _ => none

/-- The key of an operator in a filter object. -/
def operatorKey (name : String) : String :=
  "[Op." ++ name ++ "]"

/-- The name of the operator of a group. -/
def connectiveName : Connective → String
  | .conjunction => "and"
  | .disjunction => "or"

/-- A comparison is an object of one column, or a call where the operator has no name. -/
def comparison (context : Context) (leaf : Comparison) : Except Fault String :=
  match operatorName? leaf.comparator with
  | some name =>
    .ok (object [(Text.javascriptKey leaf.column,
      object [(operatorKey name, operand leaf.operand)])])
  | none => do
    context.checkOperator .sequelize leaf.column leaf.comparator.sql
    return "sequelize.where(sequelize.col(" ++ Text.quoted leaf.column ++ "), " ++
      Text.quoted leaf.comparator.sql ++ ", " ++ operand leaf.operand ++ ")"

def renderer (context : Context) : Filter.Renderer Fault where
  comparison := comparison context
  combine connective operands := object [(operatorKey (connectiveName connective), array operands)]
  negate negated := object [(operatorKey "not", negated)]

def filter? (context : Context) : Option Filter → Except Fault (Option String)
  | none => .ok none
  | some filter => (filter.render (renderer context)).map some

/-- A literal piece of SQL inside the code. -/
def sqlText (sql : String) : String :=
  "sequelize.literal(" ++ Text.quoted sql ++ ")"

def defaultValue : DefaultValue → String
  | .literal value => literal value
  | .currentTimestamp => "DataTypes.NOW"
  | .expression sql => sqlText sql

def attributes (column : Column) (type : String) : List (String × String) :=
  [("type", type)] ++
    (if column.nullable then [] else [("allowNull", "false")]) ++
    (if column.primaryKey then [("primaryKey", "true")] else []) ++
    (if column.autoIncrement then [("autoIncrement", "true")] else []) ++
    (if column.unique then [("unique", "true")] else []) ++
    (column.default?.toList.map fun value => ("defaultValue", defaultValue value))

/-- The line that defines a column. -/
def field (context : Context) (column : Column) : Except Fault String := do
  let type ← context.columnType column
  return "  " ++ Text.javascriptKey column.name ++ ": " ++ object (attributes column type)

def definition (context : Context) (table : TableDefinition) : Except Fault String := do
  table.validate.mapError Statement.Flaw.fault
  let fields ← table.columns.mapM (field context)
  let name := Text.quoted table.table
  return "const " ++ Text.javascriptIdentifier table.table ++ " = sequelize.define(" ++ name ++
    ", \x7b\n" ++ ",\n".intercalate fields ++ "\n\x7d, \x7b\n  tableName: " ++ name ++
    ",\n  timestamps: false\n\x7d);"

def record (columns : List String) (row : List Literal) : String :=
  object ((columns.zip row).map fun (column, value) => (Text.javascriptKey column, literal value))

/-- The creation of one or of several records. -/
def insertion (inserted : Insertion) : Except Fault String := do
  inserted.validate.mapError Statement.Flaw.fault
  let model := Text.javascriptIdentifier inserted.table
  return match inserted.rows.map (record inserted.columns) with
    | [only] => "await " ++ model ++ ".create(" ++ only ++ ");"
    | records =>
      "await " ++ model ++ ".bulkCreate([\n  " ++ ",\n  ".intercalate records ++ "\n]);"

def sortKey (key : SortKey) : String :=
  array [Text.quoted key.column, if key.ascending then "'ASC'" else "'DESC'"]

/-- The options of a query whose filter is already rendered. -/
def options (selected : Selection) (filter : Option String) : List (String × String) :=
  (if selected.columns.isEmpty then []
    else [("attributes", array (selected.columns.map Text.quoted))]) ++
    (filter.toList.map fun rendered => ("where", rendered)) ++
    (if selected.order.isEmpty then [] else [("order", array (selected.order.map sortKey))]) ++
    (selected.limit?.toList.map fun count => ("limit", toString count)) ++
    (selected.offset?.toList.map fun count => ("offset", toString count))

/-- A query for all matching records. -/
def selection (context : Context) (selected : Selection) : Except Fault String := do
  let filter ← filter? context selected.filter?
  let model := Text.javascriptIdentifier selected.table
  return match options selected filter with
    | [] => "await " ++ model ++ ".findAll();"
    | given => "await " ++ model ++ ".findAll(" ++ object given ++ ");"

/-- The spelling of a constant inside a piece of SQL. -/
def sqlLiteral : Literal → String
  | .string value =>
    "'" ++ String.ofList (value.toList.flatMap fun character =>
      if character = '\x27' then ['\x27', '\x27'] else [character]) ++ "'"
  | .number numeral => numeral
  | .boolean true => "TRUE"
  | .boolean false => "FALSE"
  | .null => "NULL"

def changeSign : Change → String
  | .addition => " + "
  | .subtraction => " - "

/-- The new value of a column. -/
def assignedValue : AssignedValue → String
  | .literal value => literal value
  | .changed column change amount => sqlText (column ++ changeSign change ++ sqlLiteral amount)

/-- An update of all matching records. -/
def modification (context : Context) (updated : Update) : Except Fault String := do
  updated.validate.mapError Statement.Flaw.fault
  let values := object (updated.assignments.map fun assignment =>
    (Text.javascriptKey assignment.column, assignedValue assignment.value))
  let filter ← filter? context updated.filter?
  let model := Text.javascriptIdentifier updated.table
  return match filter with
    | some rendered =>
      "await " ++ model ++ ".update(" ++ values ++ ", " ++ object [("where", rendered)] ++ ");"
    | none => "await " ++ model ++ ".update(" ++ values ++ ");"

/-- The deletion of all matching records. -/
def deletion (context : Context) (deleted : Deletion) : Except Fault String := do
  let filter ← filter? context deleted.filter?
  let model := Text.javascriptIdentifier deleted.table
  return match filter with
    | some rendered => "await " ++ model ++ ".destroy(" ++ object [("where", rendered)] ++ ");"
    | none => "await " ++ model ++ ".destroy();"

def handler : StatementKind → Handler
  | .create => fun statement context =>
    match statement with
    | .create table => definition context table
    | _ => .error (context.unexpected statement)
  | .insert => fun statement context =>
    match statement with
    | .insert inserted => insertion inserted
    | _ => .error (context.unexpected statement)
  | .select => fun statement context =>
    match statement with
    | .select selected => selection context selected
    | _ => .error (context.unexpected statement)
  | .update => fun statement context =>
    match statement with
    | .update updated => modification context updated
    | _ => .error (context.unexpected statement)
  | .delete => fun statement context =>
    match statement with
    | .delete deleted => deletion context deleted
    | _ => .error (context.unexpected statement)

end Sequelize

end OrmCode
