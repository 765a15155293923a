import OrmCode.Sql.Dialect

/-!
# Settings

The dialect that statements are written in, the length they may have, and what
becomes of column types and operators that a target does not know.
-/

namespace OrmCode

/-- What becomes of something without a counterpart in the target. -/
inductive Policy
  | lenient
  | strict
  deriving DecidableEq, Inhabited

namespace Policy

def name : Policy → String
  | lenient => "lenient"
  | strict => "strict"

def ofName? : String → Option Policy
  | "lenient" => some lenient
  | "strict" => some strict
  | _ => none

@[simp] theorem ofName?_name (policy : Policy) : ofName? policy.name = some policy := by
  cases policy <;> rfl

end Policy

/-- How statements are read and rendered.  The dialect is kept by its name. -/
structure Settings where
  dialect : String := "mysql"
  maxLength : Nat := 65536
  unknownTypes : Policy := .lenient
  unknownOperators : Policy := .lenient
  deriving DecidableEq, Inhabited

namespace Settings

/-- The reason why settings cannot be used. -/
inductive Flaw
  | noLength
  | unknownDialect (name : String)
  deriving DecidableEq

def Flaw.message : Flaw → String
  | noLength => "max_statement_len must be greater than 0"
  | unknownDialect name => "unknown SQL dialect '" ++ name ++ "'"

/-- The settings with one policy for types and operators alike. -/
def withPolicy (settings : Settings) (policy : Policy) : Settings :=
  { settings with unknownTypes := policy, unknownOperators := policy }

/-- The settings under which everything unknown is refused. -/
def strict (settings : Settings) : Settings :=
  settings.withPolicy .strict

/-- The dialect that usable settings name; the length is looked at first. -/
def dialect? (settings : Settings) : Except Flaw Sql.Dialect :=
  if settings.maxLength = 0 then .error .noLength
  else match Sql.Dialect.ofName? settings.dialect with
    | some dialect => .ok dialect
    | none => .error (.unknownDialect settings.dialect)

/-- Whether the settings can be used. -/
def validate (settings : Settings) : Except Flaw Unit :=
  settings.dialect?.map fun _ => ()

end Settings

end OrmCode
