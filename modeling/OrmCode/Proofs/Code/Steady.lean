import OrmCode.Fault
import OrmCode.Proofs.Statement.Filter
import OrmCode.Settings

/-!
# Outcomes that only a refusal changes

What the settings decide about code is whether it is refused.  An outcome is
steady if it is one and the same value under all settings that do not refuse it.
-/

namespace OrmCode

/-- An outcome is the value unless it is refused, and then the fault of a construct. -/
inductive ValueUnless {Value : Type} (refused : Prop) (value : Value) : Except Fault Value → Prop
  | passes (passed : ¬refused) : ValueUnless refused value (.ok value)
  | fails (failed : refused) (description : String) :
    ValueUnless refused value (.error (.unsupportedConstruct description))

theorem ValueUnless.bind {Value Result : Type} {refused refusedLater : Prop} {value : Value}
    {result : Result} {outcome : Except Fault Value} {next : Value → Except Fault Result}
    (first : ValueUnless refused value outcome)
    (second : ValueUnless refusedLater result (next value)) :
    ValueUnless (refused ∨ refusedLater) result (outcome >>= next) := by
  cases first with
  | fails failed description => exact .fails (.inl failed) description
  | passes passed =>
      change ValueUnless _ _ (next value)
      generalize next value = later at second
      cases second with
      | passes passedLater => exact .passes (not_or.mpr ⟨passed, passedLater⟩)
      | fails failed description => exact .fails (.inr failed) description

namespace ValueUnless

variable {Value : Type} {refused : Prop} {value result : Value} {outcome : Except Fault Value}

theorem eq_ok_iff (decided : ValueUnless refused value outcome) :
    outcome = .ok result ↔ ¬refused ∧ value = result := by
  cases decided with
  | passes passed => simp [passed]
  | fails failed description => simp [failed]

theorem exists_error_iff (decided : ValueUnless refused value outcome) :
    (∃ fault, outcome = .error fault) ↔ refused := by
  cases decided with
  | passes passed => simp [passed]
  | fails failed description => simp [failed]

theorem unsupported_of_error (decided : ValueUnless refused value outcome) {fault : Fault}
    (failed : outcome = .error fault) : ∃ description, fault = .unsupportedConstruct description := by
  cases decided with
  | passes passed => cases failed
  | fails refused description => exact ⟨description, (Except.error.inj failed).symm⟩

end ValueUnless

/-- One value under all settings that do not refuse it. -/
def Steady {Value : Type} (outcome : Settings → Except Fault Value)
    (refused : Settings → Prop) : Prop :=
  ∃ value, ∀ settings, ValueUnless (refused settings) value (outcome settings)

namespace Steady

variable {Value Result : Type} {outcome : Settings → Except Fault Value}
  {refused : Settings → Prop}

theorem const (value : Value) : Steady (fun _ => .ok value) fun _ => False :=
  ⟨value, fun _ => .passes id⟩

theorem congr {others : Settings → Prop} (steady : Steady outcome refused)
    (same : ∀ settings, refused settings ↔ others settings) : Steady outcome others := by
  obtain rfl : refused = others := funext fun settings => propext (same settings)
  exact steady

/-- Two steps are refused when either of them is. -/
theorem bind {next : Value → Settings → Except Fault Result} {others : Settings → Prop}
    (steady : Steady outcome refused) (following : ∀ value, Steady (next value) others) :
    Steady (fun settings => outcome settings >>= fun value => next value settings)
      fun settings => refused settings ∨ others settings := by
  obtain ⟨value, each⟩ := steady
  obtain ⟨result, later⟩ := following value
  exact ⟨result, fun settings => (each settings).bind (later settings)⟩

/-- A step that is always taken is refused when what precedes it is. -/
theorem bind_ok (steady : Steady outcome refused) (function : Value → Result) :
    Steady (fun settings => outcome settings >>= fun value => .ok (function value)) refused :=
  (steady.bind fun value => const (function value)).congr fun _ => by rw [or_false]

theorem map (steady : Steady outcome refused) (function : Value → Result) :
    Steady (fun settings => (outcome settings).map function) refused := by
  have same : ∀ given : Except Fault Value,
      given.map function = given >>= fun value => .ok (function value) := by
    intro given
    cases given <;> rfl
  simp only [same]
  exact steady.bind_ok function

/-- A list of steps is refused when one of them is. -/
theorem mapM {Item : Type} {step : Item → Settings → Except Fault Value}
    {refusedItem : Item → Settings → Prop} {items : List Item}
    (each : ∀ item ∈ items, Steady (step item) (refusedItem item)) :
    Steady (fun settings => items.mapM fun item => step item settings)
      fun settings => ∃ item ∈ items, refusedItem item settings := by
  induction items with
  | nil => exact (const []).congr fun _ => by simp
  | cons item items induction =>
      obtain ⟨here, later⟩ := List.forall_mem_cons.mp each
      simp only [List.mapM_cons]
      have both := here.bind fun first => (induction later).bind_ok fun others => first :: others
      exact both.congr fun settings => by simp

end Steady

/-- A filter is refused when one of its comparisons is. -/
theorem Filter.steady_render {comparison : Settings → Comparison → Except Fault String}
    {combine : Connective → List String → String} {negate : String → String}
    {refused : Comparison → Settings → Prop}
    (each : ∀ leaf, Steady (fun settings => comparison settings leaf) (refused leaf))
    (filter : Filter) :
    Steady (fun settings => filter.render ⟨comparison settings, combine, negate⟩)
      fun settings => ∃ leaf ∈ filter.leaves, refused leaf settings := by
  induction filter with
  | comparison leaf =>
      exact (each leaf).congr fun settings => by simp [leaves]
  | group connective operands induction =>
      have all := (Steady.mapM induction).map
        (Renderer.group ⟨comparison default, combine, negate⟩ connective)
      simp only [render, renderAll_eq_mapM]
      refine all.congr fun settings => ?_
      simp only [leaves_group, List.mem_flatMap]
      constructor
      · rintro ⟨operand, member, leaf, listed, failed⟩
        exact ⟨leaf, ⟨operand, member, listed⟩, failed⟩
      · rintro ⟨leaf, ⟨operand, member, listed⟩, failed⟩
        exact ⟨operand, member, leaf, listed, failed⟩
  | negation operand induction =>
      exact (induction.map negate).congr fun settings => by rw [leaves]

end OrmCode
