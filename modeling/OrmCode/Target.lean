import OrmCode.Text.Blank
import OrmCode.Text.LetterCase

/-!
# Targets

Code is generated for two libraries that map objects to tables.
-/

namespace OrmCode

/-- The library that the generated code uses. -/
inductive Target
  | sequelize
  | sqlAlchemy
  deriving DecidableEq, Inhabited

namespace Target

/-- All targets, in the order they are listed. -/
def all : List Target :=
  [sequelize, sqlAlchemy]

/-- The name by which a target is chosen. -/
def name : Target → String
  | sequelize => "sequelize"
  | sqlAlchemy => "sqlalchemy"

def language : Target → String
  | sequelize => "javascript"
  | sqlAlchemy => "python"

/-- The target chosen by a text: its name between blanks, in any letter case. -/
def ofText? (text : String) : Option Target :=
  all.find? fun target => Text.sameIgnoringCase target.name (Text.trim text)

theorem mem_all (target : Target) : target ∈ all := by
  cases target <;> decide

@[simp] theorem lower_name (target : Target) : Text.lower target.name = target.name := by
  cases target <;> decide

theorem name_injective {first second : Target} (same : first.name = second.name) :
    first = second := by
  cases first <;> cases second <;> first | rfl | exact absurd same (by decide)

theorem name_of_ofText? {text : String} {target : Target} (found : ofText? text = some target) :
    Text.lower (Text.trim text) = target.name := by
  rw [ofText?] at found
  have named := List.find?_some found
  rw [Text.sameIgnoringCase_iff, lower_name] at named
  exact named.symm

/-- A target is chosen by its name between blanks, in any letter case, and by nothing else. -/
theorem ofText?_eq_some_iff {text : String} {target : Target} :
    ofText? text = some target ↔ Text.lower (Text.trim text) = target.name := by
  refine ⟨name_of_ofText?, fun named => ?_⟩
  have same : Text.sameIgnoringCase target.name (Text.trim text) = true := by
    rw [Text.sameIgnoringCase_iff, lower_name, named]
  have some_found : (ofText? text).isSome = true :=
    List.find?_isSome.mpr ⟨target, mem_all target, same⟩
  obtain ⟨other, found⟩ := Option.isSome_iff_exists.mp some_found
  rw [found, name_injective ((name_of_ofText? found).symm.trans named)]

/-- A target is chosen by its own name. -/
@[simp] theorem ofText?_name (target : Target) : ofText? target.name = some target := by
  cases target <;> decide

end Target

end OrmCode
