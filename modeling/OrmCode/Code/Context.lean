import OrmCode.Code.TypeTables
import OrmCode.Settings
import OrmCode.Statement.Validity

/-!
# Handlers

A handler makes code of the statements of one kind.  Beside the statement it is
told the target it is called for and the settings, which decide what becomes of
types and operators that the target does not know.
-/

namespace OrmCode

/-- What a handler is told beside the statement. -/
structure Context where
  target : Target
  settings : Settings

/-- Makes code of a statement. -/
abbrev Handler := Statement → Context → Except Fault String

namespace Context

/-- The fault of a handler that is given a statement of another kind. -/
def unexpected (context : Context) (statement : Statement) : Fault :=
  .unsupportedStatement statement.kindName context.target

/-- The type of a column in the target; strict settings refuse an unknown one. -/
def columnType (context : Context) (column : Column) : Except Fault String :=
  let mapped := context.target.types.map column.sqlType
  if mapped.known || context.settings.unknownTypes == .lenient then
    .ok mapped.rendered
  else
    .error (.unsupportedConstruct ("column '" ++ column.name ++ "' has type '" ++ column.sqlType ++
      "' with no " ++ context.target.name ++ " mapping"))

/-- Strict settings refuse an operator that a target has no spelling for. -/
def checkOperator (context : Context) (target : Target) (column token : String) :
    Except Fault Unit :=
  match context.settings.unknownOperators with
  | .lenient => .ok ()
  | .strict =>
    .error (.unsupportedConstruct ("operator '" ++ token ++ "' on column '" ++ column ++
      "' has no " ++ target.name ++ " mapping"))

end Context

end OrmCode
