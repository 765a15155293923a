import Mathlib.Data.List.Nodup
import OrmCode.Statement.Validity

/-!
# What valid statements promise

The columns of a valid definition, insertion or update are different.
-/

namespace OrmCode

/-- No name is repeated exactly if all differ in small letters, also from those seen before. -/
theorem firstRepeated?_eq_none_iff {names seen : List String} :
    firstRepeated? seen names = none ↔
      (names.map Text.lower).Nodup ∧ ∀ name ∈ names, Text.lower name ∉ seen := by
  induction names generalizing seen with
  | nil => simp [firstRepeated?]
  | cons name names induction =>
      have apart : (∀ other ∈ names, Text.lower other ∉ Text.lower name :: seen) ↔
          Text.lower name ∉ names.map Text.lower ∧ ∀ other ∈ names, Text.lower other ∉ seen := by
        simp only [List.mem_cons, not_or, List.mem_map, not_exists, not_and, forall_and]
      rw [firstRepeated?, List.map_cons, List.nodup_cons, List.forall_mem_cons]
      split
      · next repeated =>
          have seenBefore := List.contains_iff_mem.mp repeated
          exact iff_of_false nofun fun different => different.2.1 seenBefore
      · next new =>
          rw [List.contains_iff_mem] at new
          rw [induction, apart]
          tauto

theorem checkDistinct_eq_ok_iff {clause table : String} {columns : List String} :
    checkDistinct clause table columns = .ok () ↔ (columns.map Text.lower).Nodup := by
  have nothing : firstRepeated? [] columns = none ↔ (columns.map Text.lower).Nodup := by
    simp [firstRepeated?_eq_none_iff]
  rw [← nothing, checkDistinct]
  cases firstRepeated? [] columns <;> simp

theorem nodup_of_checkDistinct {clause table : String} {columns : List String}
    (passed : checkDistinct clause table columns = .ok ()) : columns.Nodup :=
  List.Nodup.of_map Text.lower (checkDistinct_eq_ok_iff.mp passed)

namespace TableDefinition

theorem columns_ne_nil_of_validate {definition : TableDefinition}
    (valid : definition.validate = .ok ()) : definition.columns ≠ [] := by
  intro nothing
  simp [validate, nothing] at valid

theorem nodup_of_validate {definition : TableDefinition} (valid : definition.validate = .ok ()) :
    (definition.columns.map Column.name).Nodup := by
  unfold validate at valid
  split at valid
  · cases valid
  · exact nodup_of_checkDistinct valid

end TableDefinition

namespace Insertion

theorem nodup_of_validate {inserted : Insertion} (valid : inserted.validate = .ok ()) :
    inserted.columns.Nodup := by
  unfold validate at valid
  split at valid
  · cases valid
  · split at valid
    · cases valid
    · exact nodup_of_checkDistinct valid

/-- Every row of a valid insertion has a value for each column. -/
theorem length_of_validate {inserted : Insertion} (valid : inserted.validate = .ok ())
    {row : List Literal} (member : row ∈ inserted.rows) :
    row.length = inserted.columns.length := by
  unfold validate at valid
  split at valid
  · cases valid
  · next none =>
      have fits := List.find?_eq_none.mp none row member
      simpa using fits

theorem rows_ne_nil_of_validate {inserted : Insertion} (valid : inserted.validate = .ok ()) :
    inserted.rows ≠ [] := by
  intro nothing
  simp [validate, nothing] at valid

end Insertion

namespace Update

theorem nodup_of_validate {updated : Update} (valid : updated.validate = .ok ()) :
    (updated.assignments.map Assignment.column).Nodup := by
  unfold validate at valid
  split at valid
  · cases valid
  · exact nodup_of_checkDistinct valid

end Update

end OrmCode
