import OrmCode.Reading

/-!
# Providers

A provider keeps its dialect by name and looks it up for every statement.  The name is checked
when the provider is made, so that the dialect is there whenever a statement is read.
-/

namespace OrmCode

/-- What a provider keeps of the settings. -/
structure Provider where
  dialect : String
  maxLength : Nat
  deriving DecidableEq

namespace Provider

def ofSettings (settings : Settings) : Except Fault Provider :=
  match settings.validate with
  | .ok () => .ok { dialect := settings.dialect, maxLength := settings.maxLength }
  | .error flaw => .error (.badSettings flaw.message)

/-- The dialect that a provider names. -/
def dialectNamed (provider : Provider) : Except Fault Sql.Dialect :=
  match Sql.Dialect.ofName? provider.dialect with
  | some dialect => .ok dialect
  | none => .error (.badSettings (Settings.Flaw.unknownDialect provider.dialect).message)

/-- The statement that a text holds.  Its size is looked at before the dialect is. -/
def read (provider : Provider) (text : String) : Except Fault Statement := do
  (Reading.checkSize provider.maxLength text).mapError Reading.Flaw.fault
  let dialect ← provider.dialectNamed
  let parsed ← (Reading.onlyStatement dialect text).mapError Reading.Flaw.fault
  (Lowering.statement parsed).mapError Lowering.Unsupported.fault

end Provider

namespace Settings

variable {settings : Settings} {dialect : Sql.Dialect}

theorem ofName?_of_dialect? (known : settings.dialect? = .ok dialect) :
    Sql.Dialect.ofName? settings.dialect = some dialect := by
  unfold dialect? at known
  split at known
  · cases known
  · split at known
    · next named => exact named.trans (congrArg some (Except.ok.inj known))
    · cases known

end Settings

namespace Provider

variable {settings : Settings} {provider : Provider} {dialect : Sql.Dialect}

end Provider

end OrmCode
