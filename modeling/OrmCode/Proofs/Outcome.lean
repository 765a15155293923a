import Mathlib.Data.List.Forall2

/-!
# Steps that may fail

A computation that succeeds has succeeded in each of its steps, and one that fails has
failed in one of them.  These are the inversions by which an outcome is taken apart.
-/

namespace OrmCode

namespace Outcome

variable {Failure Value Result : Type}

/-- What is made of the same values in two ways is related in order if it is for each value. -/
theorem forall₂_maps {Item Other : Type} {relation : Item → Other → Prop} {make : Value → Item}
    {makeOther : Value → Other} {values : List Value}
    (each : ∀ value ∈ values, relation (make value) (makeOther value)) :
    List.Forall₂ relation (values.map make) (values.map makeOther) := by
  rw [List.forall₂_map_left_iff, List.forall₂_map_right_iff, List.forall₂_same]
  exact each

/-- Two steps succeed when the first one does and the second one does after it. -/
theorem bind_eq_ok {step : Except Failure Value} {next : Value → Except Failure Result}
    {result : Result} :
    (step >>= next) = .ok result ↔ ∃ value, step = .ok value ∧ next value = .ok result := by
  cases step with
  | error failure => simp [bind, Except.bind]
  | ok value => simp [bind, Except.bind]

theorem map_eq_ok {step : Except Failure Value} {function : Value → Result} {result : Result} :
    step.map function = .ok result ↔ ∃ value, step = .ok value ∧ function value = result := by
  cases step with
  | error failure => simp [Except.map]
  | ok value => simp [Except.map]

theorem mapError_eq_ok {Other : Type} {step : Except Failure Value} {function : Failure → Other}
    {value : Value} : step.mapError function = .ok value ↔ step = .ok value := by
  cases step with
  | error failure => simp [Except.mapError]
  | ok found => simp [Except.mapError]

/-- Two steps fail when one of them does. -/
theorem bind_eq_error {step : Except Failure Value} {next : Value → Except Failure Result}
    {failure : Failure} :
    (step >>= next) = .error failure ↔
      step = .error failure ∨ ∃ value, step = .ok value ∧ next value = .error failure := by
  cases step with
  | error first => simp [bind, Except.bind]
  | ok value => simp [bind, Except.bind]

theorem mapError_eq_error {Other : Type} {step : Except Failure Value} {function : Failure → Other}
    {other : Other} :
    step.mapError function = .error other ↔
      ∃ failure, step = .error failure ∧ function failure = other := by
  cases step with
  | error failure => simp [Except.mapError]
  | ok found => simp [Except.mapError]

/-- All members of a list pass a step when each of them does, in order. -/
theorem mapM_eq_ok {step : Value → Except Failure Result} {values : List Value}
    {results : List Result} :
    values.mapM step = .ok results ↔
      List.Forall₂ (fun value result => step value = .ok result) values results := by
  induction values generalizing results with
  | nil =>
      rw [List.mapM_nil, List.forall₂_nil_left_iff]
      exact ⟨fun same => (Except.ok.inj same).symm, fun same => same ▸ rfl⟩
  | cons value values induction =>
      rw [List.mapM_cons, bind_eq_ok, List.forall₂_cons_left_iff]
      constructor
      · rintro ⟨first, passed, rest⟩
        obtain ⟨others, othersPassed, same⟩ := bind_eq_ok.mp rest
        exact ⟨first, others, passed, induction.mp othersPassed, (Except.ok.inj same).symm⟩
      · rintro ⟨first, others, passed, othersPassed, rfl⟩
        exact ⟨first, passed, bind_eq_ok.mpr ⟨others, induction.mpr othersPassed, rfl⟩⟩

theorem exists_of_mem_of_mapM {step : Value → Except Failure Result} {value : Value}
    {values : List Value} {results : List Result} (passed : values.mapM step = .ok results)
    (member : value ∈ values) : ∃ result, step value = .ok result := by
  rw [mapM_eq_ok] at passed
  induction passed with
  | nil => simp at member
  | cons first rest induction =>
      rcases List.mem_cons.mp member with rfl | later
      · exact ⟨_, first⟩
      · exact induction later

/-- Each result of a step over a list is the one of some member. -/
theorem exists_mem_of_mem_mapM {step : Value → Except Failure Result} {result : Result}
    {values : List Value} {results : List Result} (passed : values.mapM step = .ok results)
    (member : result ∈ results) : ∃ value ∈ values, step value = .ok result := by
  rw [mapM_eq_ok] at passed
  induction passed with
  | nil => simp at member
  | cons first rest induction =>
      rcases List.mem_cons.mp member with rfl | later
      · exact ⟨_, List.mem_cons_self, first⟩
      · obtain ⟨value, listed, found⟩ := induction later
        exact ⟨value, List.mem_cons_of_mem _ listed, found⟩

/-- What holds of each member and its result holds of all of them in order. -/
theorem forall₂_of_mapM {step : Value → Except Failure Result} {relation : Value → Result → Prop}
    {values : List Value} {results : List Result} (passed : values.mapM step = .ok results)
    (each : ∀ value ∈ values, ∀ result, step value = .ok result → relation value result) :
    List.Forall₂ relation values results := by
  rw [mapM_eq_ok] at passed
  induction passed with
  | nil => exact .nil
  | cons first rest induction =>
      obtain ⟨here, later⟩ := List.forall_mem_cons.mp each
      exact .cons (here _ first) (induction later)

theorem eq_map_of_mapM {step : Value → Except Failure Result} {function : Value → Result}
    {values : List Value} {results : List Result} (passed : values.mapM step = .ok results)
    (each : ∀ value ∈ values, ∀ result, step value = .ok result → function value = result) :
    results = values.map function := by
  have made := forall₂_of_mapM passed each
  rw [← List.forall₂_map_left_iff, List.forall₂_eq_eq_eq] at made
  exact made.symm

/-- All members of a list have a value when each of them has one, in order. -/
theorem mapM_eq_some {step : Value → Option Result} {values : List Value}
    {results : List Result} :
    values.mapM step = some results ↔
      List.Forall₂ (fun value result => step value = some result) values results := by
  induction values generalizing results with
  | nil =>
      rw [List.mapM_nil, List.forall₂_nil_left_iff]
      exact ⟨fun same => (Option.some.inj same).symm, fun same => same ▸ rfl⟩
  | cons value values induction =>
      rw [List.mapM_cons, List.forall₂_cons_left_iff]
      constructor
      · intro passed
        obtain ⟨first, firstPassed, rest⟩ := Option.bind_eq_some_iff.mp passed
        obtain ⟨others, othersPassed, same⟩ := Option.bind_eq_some_iff.mp rest
        exact ⟨first, others, firstPassed, induction.mp othersPassed, (Option.some.inj same).symm⟩
      · rintro ⟨first, others, firstPassed, othersPassed, rfl⟩
        simp [firstPassed, induction.mpr othersPassed]

/-- What is made of each of some values is read if each is on its own. -/
theorem mapM_map_eq_some_map {Item : Type} {make : Value → Item} {read : Item → Option Result}
    {function : Value → Result} {values : List Value}
    (each : ∀ value ∈ values, read (make value) = some (function value)) :
    (values.map make).mapM read = some (values.map function) :=
  mapM_eq_some.mpr (forall₂_maps each)

theorem mapM_map_eq_ok_map {Item : Type} {make : Value → Item} {step : Item → Except Failure Result}
    {function : Value → Result} {values : List Value}
    (each : ∀ value ∈ values, step (make value) = .ok (function value)) :
    (values.map make).mapM step = .ok (values.map function) :=
  mapM_eq_ok.mpr (forall₂_maps each)

theorem mapM_map_eq_some {Item : Type} {make : Value → Item} {read : Item → Option Value}
    {values : List Value} (each : ∀ value ∈ values, read (make value) = some value) :
    (values.map make).mapM read = some values := by
  have read_all := mapM_map_eq_some_map each
  rwa [List.map_id'] at read_all

/-- Members that pass a step have the results as their values exactly when each
of them has its own, that is when none of them has marks. -/
theorem mapM_eq_some_iff_flatMap_eq_nil {Mark : Type} {step : Value → Except Failure Result}
    {value? : Value → Option Result} {marks : Value → List Mark} {values : List Value}
    {results : List Result}
    (each : ∀ value result, step value = .ok result →
      (value? value = some result ↔ marks value = []))
    (passed : values.mapM step = .ok results) :
    values.mapM value? = some results ↔ values.flatMap marks = [] := by
  rw [mapM_eq_some, List.flatMap_eq_nil_iff]
  rw [mapM_eq_ok] at passed
  induction passed with
  | nil => simp
  | cons first rest induction =>
      rw [List.forall₂_cons, each _ _ first, induction, List.forall_mem_cons]

/-- Members that are changed without a change of their results have the same results. -/
theorem mapM_map_eq_ok {step : Value → Except Failure Result} {change : Value → Value}
    {values : List Value} {results : List Result}
    (each : ∀ value result, step value = .ok result → step (change value) = .ok result)
    (passed : values.mapM step = .ok results) :
    (values.map change).mapM step = .ok results := by
  rw [mapM_eq_ok, List.forall₂_map_left_iff]
  exact (mapM_eq_ok.mp passed).imp each

theorem toOption_eq_some {step : Except Failure Value} {value : Value} :
    step.toOption = some value ↔ step = .ok value := by
  cases step <;> simp [Except.toOption]

theorem toOption_bind (step : Except Failure Value) (next : Value → Except Failure Result) :
    (step >>= next).toOption = step.toOption.bind fun value => (next value).toOption := by
  cases step <;> rfl

theorem toOption_map (step : Except Failure Value) (function : Value → Result) :
    (step.map function).toOption = step.toOption.map function := by
  cases step <;> rfl

/-- Two steps for each member of a list have the same results where both succeed alike. -/
theorem toOption_mapM_map {step : Value → Except Failure Result} {change : Value → Value}
    {values : List Value}
    (each : ∀ value ∈ values, (step (change value)).toOption = (step value).toOption) :
    ((values.map change).mapM step).toOption = (values.mapM step).toOption := by
  induction values with
  | nil => rfl
  | cons value values induction =>
      obtain ⟨here, later⟩ := List.forall_mem_cons.mp each
      simp only [List.map_cons, List.mapM_cons, toOption_bind, here, induction later]

end Outcome

end OrmCode
