import OrmCode.Fault
import OrmCode.Statement.Basic

/-!
# Validity of statements

What every target asks of a statement: a table has columns, a row has as many
values as columns are listed, something is assigned, and no column is listed
twice.  Column names are compared without regard to letter case.
-/

namespace OrmCode

/-- The reason why a statement is refused for every target. -/
inductive Statement.Flaw
  | noColumns (table : String)
  | rowLength (columns values : Nat)
  | noRows
  | noAssignments
  | duplicate (column clause table : String)
  deriving DecidableEq

namespace Statement.Flaw

def fault : Statement.Flaw → Fault
  | noColumns table =>
    .unsupportedConstruct ("CREATE TABLE " ++ table ++ " has no column definitions")
  | rowLength columns values => .countMismatch columns values
  | noRows => .unsupportedConstruct "INSERT requires at least one VALUES row"
  | noAssignments => .unsupportedConstruct "UPDATE requires at least one SET assignment"
  | duplicate column clause table =>
    .unsupportedConstruct ("duplicate column '" ++ column ++ "' in " ++ clause ++ " " ++ table)

end Statement.Flaw

/-- The first name that equals an earlier one up to letter case. -/
def firstRepeated? (seen : List String) : List String → Option String
  | [] => none
  | name :: names =>
    if seen.contains (Text.lower name) then some name
    else firstRepeated? (Text.lower name :: seen) names

/-- Refuses a list of columns that names one twice. -/
def checkDistinct (clause table : String) (columns : List String) :
    Except Statement.Flaw Unit :=
  match firstRepeated? [] columns with
  | some column => .error (.duplicate column clause table)
  | none => .ok ()

namespace TableDefinition

/-- Refuses a table without columns or with one of them twice. -/
def validate (definition : TableDefinition) : Except Statement.Flaw Unit :=
  if definition.columns.isEmpty then
    .error (.noColumns definition.table)
  else
    checkDistinct "CREATE TABLE" definition.table (definition.columns.map Column.name)

end TableDefinition

namespace Insertion

/-- Refuses a row of the wrong length before anything else, then no rows at
all, then a column listed twice. -/
def validate (insertion : Insertion) : Except Statement.Flaw Unit :=
  match insertion.rows.find? fun row => row.length != insertion.columns.length with
  | some row => .error (.rowLength insertion.columns.length row.length)
  | none =>
    if insertion.rows.isEmpty then .error .noRows
    else checkDistinct "INSERT INTO" insertion.table insertion.columns

end Insertion

namespace Update

/-- Refuses an update of nothing or of one column twice. -/
def validate (change : Update) : Except Statement.Flaw Unit :=
  if change.assignments.isEmpty then
    .error .noAssignments
  else
    checkDistinct "UPDATE" change.table (change.assignments.map Assignment.column)

end Update

namespace Statement

/-- Refuses a flawed creation, insertion or update; others have nothing to check. -/
def validate : Statement → Except Statement.Flaw Unit
  | create definition => definition.validate
  | insert insertion => insertion.validate
  | update change => change.validate
  | _ => .ok ()

end Statement

end OrmCode
