import OrmCode.Lowering.Constant
import OrmCode.Lowering.Scope
import OrmCode.Statement.Basic
import OrmCode.Text.Blank

/-!
# Definitions of tables

Every option of a column sets one property of it, and a key of the table marks
the columns that it names.
-/

namespace OrmCode

namespace Lowering

/-- The types whose columns count up by themselves. -/
def serialTypes : List String :=
  ["SERIAL", "BIGSERIAL", "SMALLSERIAL"]

/-- Whether the type of a column makes it count up by itself. -/
def isSerial (type : String) : Bool :=
  let name := String.ofList (type.toList.takeWhile (· != '('))
  serialTypes.contains (Text.upper (Text.trim name))

def currentTimeFunctions : List String :=
  ["CURRENT_TIMESTAMP", "NOW", "LOCALTIMESTAMP"]

/-- The default that an expression which is no constant gives. -/
def computedDefault (expression : Sql.Expr) : DefaultValue :=
  match expression with
  | .call function _ =>
    if currentTimeFunctions.contains (Text.upper (Sql.writeQualified function)) then
      .currentTimestamp
    else
      .expression expression.write
  | other => .expression other.write

def defaultValue (expression : Sql.Expr) : DefaultValue :=
  match literal expression with
  | .ok value => .literal value
  | .error _ => computedDefault expression

/-- Whether the tokens of an option are AUTO_INCREMENT or AUTOINCREMENT, whose spelling depends
on the dialect. -/
def countsUp (tokens : List Sql.Token) : Bool :=
  let text := String.join (tokens.map Sql.Token.write)
  String.ofList ((Text.upper text).toList.filter (· != '_')) == "AUTOINCREMENT"

def withOption (column : Column) : Sql.ColumnOption → Column
  | .null => { column with nullable := true }
  | .notNull => { column with nullable := false }
  | .unique isPrimary =>
    if isPrimary then { column with primaryKey := true } else { column with unique := true }
  | .default expression => { column with default? := some (defaultValue expression) }
  | .dialectSpecific tokens =>
    if countsUp tokens then { column with autoIncrement := true } else column
  | .generated none => { column with autoIncrement := true }
  | .generated (some _) | .other => column

def column (definition : Sql.ColumnDefinition) : Column :=
  definition.options.foldl withOption
    { name := definition.name.text
      sqlType := definition.type
      autoIncrement := isSerial definition.type }

/-- The columns with the first one of a name marked as part of the key, if there is one. -/
def markKey? (name : String) : List Column → Option (List Column)
  | [] => none
  | column :: columns =>
    if column.name = name then some ({ column with primaryKey := true } :: columns)
    else (markKey? name columns).map fun marked => column :: marked

/-- The columns with one more column of the key marked. -/
def markKey (columns : List Column) (key : Sql.Name) : Except Unsupported (List Column) :=
  match markKey? key.text columns with
  | some marked => .ok marked
  | none => .error (.unknownKey key.text)

/-- The columns with those marked that a constraint makes part of the key. -/
def applyConstraint (columns : List Column) : Sql.TableConstraint →
    Except Unsupported (List Column)
  | .primaryKey keys => keys.foldlM markKey columns
  | .other => .ok columns

def definition (created : Sql.CreateTable) : Except Unsupported TableDefinition := do
  refuseIf created.query?.isSome .createAs
  refuseIf created.like?.isSome .createLike
  let table ← tableName created.name
  let columns ← created.constraints.foldlM applyConstraint (created.columns.map column)
  return { table, columns }

end Lowering

end OrmCode
