import OrmCode.Proofs.Sequelize.Decoding
import OrmCode.Proofs.SqlAlchemy.Decoding
import OrmCode.Proofs.Text.Digits

/-!
# Counts in generated code

The code of a query may say how many rows to take and how many to skip, each of them by digits
and at most once.  Both are read off the code of either target as the query has them.
-/

namespace OrmCode

open Javascript (Term)
open Sequelize (countTerm entry)

/-- The number that a term writes by digits and nothing else. -/
def Javascript.Term.number? : Term → Option Nat
  | .word digits => Text.wholeNumber? digits
  | _ => none

theorem number?_countTerm (count : Nat) : (countTerm count).number? = some count :=
  Text.wholeNumber?_toString count

theorem filter_entry (name other : String) (term? : Option Term) :
    (entry name term?).filter (·.1 == other) = if name = other then entry name term? else [] := by
  cases term? with
  | none => simp [entry]
  | some term => by_cases same : name = other <;> simp [entry, same]

/-- What is read off the only term under a name; none if there is no such term. -/
def onlyNamed? {Value : Type} (read : Term → Option Value) (name : String)
    (entries : List (String × Term)) : Option (Option Value) :=
  match entries.filter (·.1 == name) with
  | [] => some none
  | [only] => (read only.2).map some
  | _ => none

theorem onlyNamed?_of_filter {Value : Type} {make : Value → Term} {read : Term → Option Value}
    {name : String} {entries : List (String × Term)} {value? : Option Value}
    (named : entries.filter (·.1 == name) = entry name (value?.map make))
    (each : ∀ value, read (make value) = some value) :
    onlyNamed? read name entries = some value? := by
  rw [onlyNamed?, named]
  cases value? with
  | none => rfl
  | some value => exact congrArg (Option.map some) (each value)

namespace Sequelize

/-- The options that a call passes to its model. -/
def options? : List Term → Option (List (String × Term))
  | [.word "await", .list (.call _) []] => some []
  | [.word "await", .list (.call _) [given]] => object? given
  | _ => none

/-- The numbers of rows that some code takes and skips. -/
def counts? (code : String) : Option (Option Nat × Option Nat) := do
  let given ← options? (← Javascript.terms? code)
  return (← onlyNamed? Term.number? "limit" given, ← onlyNamed? Term.number? "offset" given)

theorem options?_callTerms (model : String) (columns : List String) (filter? : Option Filter)
    (order : List SortKey) (limit? offset? : Option Nat) :
    options? (callTerms ⟨model, .selection columns filter? order limit? offset?⟩) =
      some (optionEntries columns filter? order limit? offset?) := by
  rw [callTerms, actionTerms]
  cases optionEntries columns filter? order limit? offset? with
  | nil => rfl
  | cons first others => exact object?_objectTerm (first :: others)

theorem filter_optionEntries {columns : List String} {filter? : Option Filter}
    {order : List SortKey} {limit? offset? : Option Nat} :
    (optionEntries columns filter? order limit? offset?).filter (·.1 == "limit") =
        entry "limit" (limit?.map countTerm) ∧
      (optionEntries columns filter? order limit? offset?).filter (·.1 == "offset") =
        entry "offset" (offset?.map countTerm) := by
  simp [optionEntries, filter_entry]

theorem counts?_of_generate {settings : Settings} {selected : Selection} {code : String}
    (plain : (Statement.select selected).isPlain = true)
    (generated : HandlerTable.complete.generate settings (.select selected) .sequelize =
      .ok code) : counts? code = some (selected.limit?, selected.offset?) := by
  have terms := (terms?_of_generate plain rfl generated).1
  obtain ⟨limitNamed, offsetNamed⟩ := @filter_optionEntries selected.columns
    (selected.filter?.map Filter.collapsed) selected.order selected.limit? selected.offset?
  have limit := onlyNamed?_of_filter limitNamed number?_countTerm
  have offset := onlyNamed?_of_filter offsetNamed number?_countTerm
  rw [counts?, terms, Option.bind_eq_bind, Option.bind_some, options?_callTerms,
    Option.bind_eq_bind, Option.bind_some, limit, offset]
  rfl

end Sequelize

namespace SqlAlchemy

/-- The number that a call has as its only argument. -/
def argument? (call : Term) : Option Nat :=
  match arguments call with
  | [only] => only.number?
  | _ => none

/-- The numbers of rows that some code takes and skips. -/
def counts? (code : String) : Option (Option Nat × Option Nat) := do
  let given ← (Python.terms? code).bind (·.mapM called?)
  return (← onlyNamed? argument? ".limit" given, ← onlyNamed? argument? ".offset" given)

/-- The call of a method with a number as its only argument. -/
def countCall (name : String) (count : Nat) : Term :=
  .list (.call name) [countTerm count]

theorem argument?_countCall (name : String) (count : Nat) :
    argument? (countCall name count) = some count :=
  number?_countTerm count

theorem filter_method (name other : String) (arguments? : Option (List Term)) :
    (method name arguments?).filter (·.1 == other) =
      if name = other then method name arguments? else [] :=
  filter_entry name other _

theorem filter_calls (selected : Selection) :
    (calls (.select selected)).filter (·.1 == ".limit") =
        entry ".limit" (selected.limit?.map (countCall ".limit")) ∧
      (calls (.select selected)).filter (·.1 == ".offset") =
        entry ".offset" (selected.offset?.map (countCall ".offset")) := by
  have made : ∀ (name : String) (count? : Option Nat),
      method name (count?.map fun count => [countTerm count]) =
        entry name (count?.map (countCall name)) := by
    intro name count?
    rw [method, Option.map_map]
    rfl
  simp [calls, queryCall, selectionMethods, filter_method, filter_entry, made]

theorem counts?_of_generate {settings : Settings} {selected : Selection} {code : String}
    (plain : (Statement.select selected).isPlain = true)
    (generated : HandlerTable.complete.generate settings (.select selected) .sqlAlchemy =
      .ok code) : counts? code = some (selected.limit?, selected.offset?) := by
  have noTable : ∀ definition, Statement.select selected ≠ .create definition := nofun
  have called := (isChain_of_generate noTable plain generated).1.mapM_called?
  rw [canonical] at called
  obtain ⟨limitNamed, offsetNamed⟩ := filter_calls (canonicalSelection selected)
  have limit := onlyNamed?_of_filter limitNamed (argument?_countCall ".limit")
  have offset := onlyNamed?_of_filter offsetNamed (argument?_countCall ".offset")
  rw [counts?, called, Option.bind_eq_bind, Option.bind_some, limit, offset]
  rfl

end SqlAlchemy

/-- The numbers of rows that some code of a target takes and skips. -/
def Target.counts? : Target → String → Option (Option Nat × Option Nat)
  | sequelize => Sequelize.counts?
  | sqlAlchemy => SqlAlchemy.counts?

/-- Code of a query takes and skips as many rows as the query does. -/
theorem Target.counts?_of_generate {settings : Settings} {selected : Selection} {target : Target}
    {code : String} (plain : (Statement.select selected).isPlain = true)
    (generated : HandlerTable.complete.generate settings (.select selected) target = .ok code) :
    target.counts? code = some (selected.limit?, selected.offset?) := by
  cases target with
  | sequelize => exact Sequelize.counts?_of_generate plain generated
  | sqlAlchemy => exact SqlAlchemy.counts?_of_generate plain generated

end OrmCode
