import OrmCode.Target

/-!
# Faults

What can go wrong between a text and the code made of it.  A fault has a code
for programs and a message for people; its code survives added context.
-/

namespace OrmCode

/-- The reason why no code was made. -/
inductive Fault
  | unreadable (reason : String)
  | unknownTarget (name : String)
  | unsupportedStatement (kindName : String) (target : Target)
  | countMismatch (columns values : Nat)
  | unsupportedConstruct (description : String)
  | badRequest (reason : String)
  | badSettings (reason : String)
  deriving DecidableEq

namespace Fault

def code : Fault → String
  | unreadable _ => "PARSE_ERROR"
  | unknownTarget _ => "UNSUPPORTED_TARGET"
  | unsupportedStatement _ _ => "UNSUPPORTED_STATEMENT"
  | countMismatch _ _ => "COLUMN_VALUE_MISMATCH"
  | unsupportedConstruct _ => "UNSUPPORTED_CONSTRUCT"
  | badRequest _ => "INVALID_REQUEST"
  | badSettings _ => "INVALID_CONFIG"

def message : Fault → String
  | unreadable reason => "SQL parse error: " ++ reason
  | unknownTarget name =>
    "Unsupported target: '" ++ name ++ "' (expected one of: " ++
      ", ".intercalate (Target.all.map Target.name) ++ ")"
  | unsupportedStatement kindName target =>
    "Unsupported statement '" ++ kindName ++ "' for target " ++ target.name
  | countMismatch columns values =>
    "Column/value mismatch: " ++ toString columns ++ " columns but " ++ toString values ++
      " values"
  | unsupportedConstruct description => "Unsupported construct: " ++ description
  | badRequest reason => "Invalid request: " ++ reason
  | badSettings reason => "Invalid configuration: " ++ reason

/-- The same fault with context before its reason, if its reason is free text. -/
def withContext (context : String) : Fault → Fault
  | unreadable reason => unreadable (context ++ ": " ++ reason)
  | unsupportedConstruct description => unsupportedConstruct (context ++ ": " ++ description)
  | badRequest reason => badRequest (context ++ ": " ++ reason)
  | badSettings reason => badSettings (context ++ ": " ++ reason)
  | fault => fault

/-- Whether the fault lies in what was sent and not in how the program is set up. -/
def isClients : Fault → Bool
  | badSettings _ => false
  | _ => true

/-- The status under which a fault is answered over HTTP. -/
def status (fault : Fault) : Nat :=
  if fault.isClients then 400 else 500

@[simp] theorem code_withContext (context : String) (fault : Fault) :
    (fault.withContext context).code = fault.code := by
  cases fault <;> rfl

@[simp] theorem isClients_withContext (context : String) (fault : Fault) :
    (fault.withContext context).isClients = fault.isClients := by
  cases fault <;> rfl

end Fault

end OrmCode
