import OrmCode.Code.Sequelize
import OrmCode.Code.SqlAlchemy

/-!
# Tables of handlers

A table holds at most one handler for each kind of statements and each target.
Code is generated by the handler that stands there; an empty place is a fault.
-/

namespace OrmCode

/-- The handler that makes code of each kind of statements for each target. -/
structure HandlerTable where
  get? : StatementKind → Target → Option Handler

namespace HandlerTable

def places : List (StatementKind × Target) :=
  Target.all.flatMap fun target => StatementKind.all.map fun kind => (kind, target)

def empty : HandlerTable :=
  ⟨fun _ _ => none⟩

def builtIn (kind : StatementKind) : Target → Handler
  | .sequelize => Sequelize.handler kind
  | .sqlAlchemy => SqlAlchemy.handler kind

/-- The table with another handler in one place. -/
def register (table : HandlerTable) (kind : StatementKind) (target : Target) (handler : Handler) :
    HandlerTable :=
  ⟨fun otherKind otherTarget =>
    if otherKind = kind ∧ otherTarget = target then some handler
    else table.get? otherKind otherTarget⟩

/-- Registers a handler.  Beside the table that this gives stands the handler that it replaces. -/
def exchange (table : HandlerTable) (kind : StatementKind) (target : Target) (handler : Handler) :
    Option Handler × HandlerTable :=
  (table.get? kind target, table.register kind target handler)

def isTaken (table : HandlerTable) (kind : StatementKind) (target : Target) : Bool :=
  (table.get? kind target).isSome

def registerTarget (table : HandlerTable) (target : Target) : HandlerTable :=
  StatementKind.all.foldl
    (fun registered kind => registered.register kind target (builtIn kind target)) table

/-- The table with every handler in its own place. -/
def complete : HandlerTable :=
  Target.all.foldl registerTarget empty

/-- The places that hold a handler, target by target. -/
def taken (table : HandlerTable) : List (StatementKind × Target) :=
  places.filter fun (kind, target) => table.isTaken kind target

/-- The places without a handler, target by target. -/
def missing (table : HandlerTable) : List (StatementKind × Target) :=
  places.filter fun (kind, target) => !table.isTaken kind target

def size (table : HandlerTable) : Nat :=
  table.taken.length

def listedKind : StatementKind → String
  | .create => "Create"
  | .insert => "Insert"
  | .select => "Select"
  | .update => "Update"
  | .delete => "Delete"

def listedTarget : Target → String
  | .sequelize => "Sequelize"
  | .sqlAlchemy => "SqlAlchemy"

/-- The kinds in the order of their names. -/
def kindsByName : List StatementKind :=
  [.create, .delete, .insert, .select, .update]

/-- The places that hold a handler, as text, target by target and by the names
of the kinds. -/
def listing (table : HandlerTable) : String :=
  let listed := Target.all.flatMap fun target =>
    (kindsByName.filter fun kind => table.isTaken kind target).map fun kind =>
      "(" ++ listedKind kind ++ ", " ++ listedTarget target ++ ")"
  "HandlerRegistry \x7b handlers: [" ++ ", ".intercalate listed ++ "] \x7d"

def generate (table : HandlerTable) (settings : Settings) (statement : Statement)
    (target : Target) : Except Fault String :=
  match statement.kind?.bind fun kind => table.get? kind target with
  | some handler => handler statement ⟨target, settings⟩
  | none => .error (.unsupportedStatement statement.kindName target)

@[simp] theorem get?_register_self (table : HandlerTable) (kind : StatementKind)
    (target : Target) (handler : Handler) :
    (table.register kind target handler).get? kind target = some handler := by
  simp [register]

theorem get?_register_of_ne {table : HandlerTable} {kind otherKind : StatementKind}
    {target otherTarget : Target} {handler : Handler}
    (different : ¬(otherKind = kind ∧ otherTarget = target)) :
    (table.register kind target handler).get? otherKind otherTarget =
      table.get? otherKind otherTarget := by
  simp [register, different]

end HandlerTable

end OrmCode
