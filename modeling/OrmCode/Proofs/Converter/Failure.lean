import OrmCode.Converter
import OrmCode.Proofs.Code.Agreement
import OrmCode.Proofs.Outcome
import OrmCode.Provider

/-!
# What conversions fail with

Each step of a conversion has faults of its own.  None of them is the fault of a request or
of the settings, provided that the settings were checked before.
-/

namespace OrmCode

namespace Fault

/-- Whether a fault is of a statement or of the target that it is for. -/
def isOfConversion : Fault → Bool
  | badRequest _ | badSettings _ => false
  | _ => true

/-- Whether a fault is of a statement that was read, for a target that is known. -/
def isOfStatement : Fault → Bool
  | unsupportedStatement _ _ | countMismatch _ _ | unsupportedConstruct _ => true
  | _ => false

variable {fault : Fault}

end Fault

/-- Whether a step fails, if it does, with a fault of a statement or of its target. -/
def FailsInConversion {Value : Type} (step : Except Fault Value) : Prop :=
  ∀ fault, step = .error fault → fault.isOfConversion = true

namespace FailsInConversion

variable {Value Result Reason : Type}

theorem ok (value : Value) : FailsInConversion (.ok value) :=
  nofun

theorem error {fault : Fault} (conversion : fault.isOfConversion = true) :
    FailsInConversion (.error fault : Except Fault Value) := by
  rintro _ ⟨⟩
  exact conversion

theorem bind {step : Except Fault Value} {next : Value → Except Fault Result}
    (first : FailsInConversion step)
    (second : ∀ value, step = .ok value → FailsInConversion (next value)) :
    FailsInConversion (step >>= next) := by
  cases step with
  | error fault => exact error (first fault rfl)
  | ok value => exact second value rfl

theorem mapError {faultOf : Reason → Fault}
    (conversion : ∀ reason, (faultOf reason).isOfConversion = true) (step : Except Reason Value) :
    FailsInConversion (step.mapError faultOf) := by
  cases step with
  | error reason => exact error (conversion reason)
  | ok value => exact ok value

end FailsInConversion

theorem Statement.Flaw.isOfStatement_fault (flaw : Statement.Flaw) :
    flaw.fault.isOfStatement = true := by
  cases flaw <;> rfl

/-- Code is refused for the kind of a statement, for a flaw of it or for a construct. -/
theorem HandlerTable.isOfStatement_of_generate {settings : Settings} {statement : Statement}
    {target : Target} {fault : Fault}
    (failed : complete.generate settings statement target = .error fault) :
    fault.isOfStatement = true := by
  obtain ⟨name, rfl⟩ | ⟨flaw, flawed⟩ | steady := statement.generate_cases
  · obtain rfl := Except.error.inj failed
    rfl
  · rw [Statement.generate_of_flaw flawed] at failed
    obtain rfl := Except.error.inj failed
    exact flaw.isOfStatement_fault
  · obtain ⟨code, each⟩ := steady target
    obtain ⟨description, rfl⟩ := (each settings).unsupported_of_error failed
    rfl

namespace Converter

variable {settings : Settings} {converter : Converter Id}

/-- Settings have a converter exactly if they can be used. -/
theorem exists_ofSettings_iff {settings : Settings} :
    (∃ converter, ofSettings settings = .ok converter) ↔ settings.validate = .ok () := by
  rw [ofSettings, Reading.ofSettings, Settings.validate]
  cases settings.dialect? <;> simp [Except.map]

/-- What is not blank is read first, and code is made of what was read. -/
theorem run_convertFor (converter : Converter Id) (target : Target) (text : String) :
    Id.run (converter.convertFor target text) =
      if Text.allBlank text then .error Reading.Flaw.blank.fault
      else Id.run (converter.read text) >>= fun statement =>
        converter.handlers.generate converter.settings statement target := by
  rw [convertFor]
  split
  · rfl
  · cases converter.read text <;> rfl

end Converter

end OrmCode
