import OrmCode.Lowering.Statement
import OrmCode.Settings
import OrmCode.Sql.Parse

/-!
# Reading statements

A text is read as exactly one statement of a dialect.  Blank texts and texts that
are too long are refused before anything is parsed.
-/

namespace OrmCode

/-- Reads the statement that a text holds, with effects in `m`. -/
abbrev StatementReader (m : Type → Type) := String → m (Except Fault Statement)

namespace Reading

/-- The reason why a text is not read as one statement. -/
inductive Flaw
  | blank
  | tooLong (bytes greatest : Nat)
  | malformed
  | noStatement
  | manyStatements
  deriving DecidableEq

def Flaw.reason : Flaw → String
  | blank => "statement cannot be empty"
  | tooLong bytes greatest =>
    "statement too long: " ++ toString bytes ++ " bytes (max " ++ toString greatest ++ ")"
  | malformed => "sql parser error: malformed statement"
  | noStatement => "no statement found"
  | manyStatements => "multiple statements not supported"

def Flaw.fault (flaw : Flaw) : Fault :=
  .unreadable flaw.reason

/-- Refuses a text that is blank or too long. -/
def checkSize (maxLength : Nat) (text : String) : Except Flaw Unit :=
  if Text.allBlank text then .error .blank
  else if maxLength < text.utf8ByteSize then .error (.tooLong text.utf8ByteSize maxLength)
  else .ok ()

def onlyStatement (dialect : Sql.Dialect) (text : String) : Except Flaw Sql.ParsedStatement :=
  match Sql.parse? dialect text with
  | none => .error .malformed
  | some [] => .error .noStatement
  | some [statement] => .ok statement
  | some _ => .error .manyStatements

def read (dialect : Sql.Dialect) (maxLength : Nat) (text : String) : Except Fault Statement := do
  (checkSize maxLength text).mapError Flaw.fault
  let parsed ← (onlyStatement dialect text).mapError Flaw.fault
  (Lowering.statement parsed).mapError Lowering.Unsupported.fault

/-- The reader that settings describe, if they can be used. -/
def ofSettings (settings : Settings) : Except Fault (StatementReader Id) :=
  match settings.dialect? with
  | .ok dialect => .ok (read dialect settings.maxLength)
  | .error flaw => .error (.badSettings flaw.message)

end Reading

end OrmCode
