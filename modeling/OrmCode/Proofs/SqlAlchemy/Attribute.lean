import OrmCode.Code.SqlAlchemy
import Mathlib.Tactic.Push

/-!
# Attributes of different columns

The columns of a table get attributes in order.  They all do exactly when no two
different columns have one identifier.
-/

namespace OrmCode

namespace SqlAlchemy

/-- Whether no two different columns of a list have one attribute. -/
def AttributesDiffer (columns : List String) : Prop :=
  ∀ first ∈ columns, ∀ second ∈ columns,
    Text.pythonIdentifier first = Text.pythonIdentifier second → first = second

theorem not_attributesDiffer_iff {columns : List String} :
    ¬AttributesDiffer columns ↔ ∃ first ∈ columns, ∃ second ∈ columns,
      first ≠ second ∧ Text.pythonIdentifier first = Text.pythonIdentifier second := by
  simp only [AttributesDiffer, not_forall, exists_prop, ne_eq, and_comm]

/-- Whether no column has the attribute of another column or of another owner. -/
def Separate (owners : List (String × String)) (columns : List String) : Prop :=
  (∀ column ∈ columns, ∀ owner, owners.lookup (Text.pythonIdentifier column) = some owner →
    owner = column) ∧ AttributesDiffer columns

theorem separate_nil (owners : List (String × String)) : Separate owners [] := by
  simp [Separate, AttributesDiffer]

theorem attributesDiffer_cons {column : String} {columns : List String} :
    AttributesDiffer (column :: columns) ↔
      (∀ other ∈ columns, Text.pythonIdentifier other = Text.pythonIdentifier column →
        other = column) ∧ AttributesDiffer columns := by
  grind [AttributesDiffer]

/-- A column that owns its attribute already changes nothing for those behind it. -/
theorem separate_cons_of_owned {owners : List (String × String)} {column : String}
    {columns : List String}
    (owned : owners.lookup (Text.pythonIdentifier column) = some column) :
    Separate owners (column :: columns) ↔ Separate owners columns := by
  rw [Separate, Separate, attributesDiffer_cons, List.forall_mem_cons]
  grind

/-- A column that gets its attribute owns it for those behind it. -/
theorem separate_cons_of_free {owners : List (String × String)} {column : String}
    {columns : List String} (free : owners.lookup (Text.pythonIdentifier column) = none) :
    Separate owners (column :: columns) ↔
      Separate ((Text.pythonIdentifier column, column) :: owners) columns := by
  have extended : ∀ other owner,
      ((Text.pythonIdentifier column, column) :: owners).lookup (Text.pythonIdentifier other) =
          some owner ↔
        (Text.pythonIdentifier other = Text.pythonIdentifier column ∧ column = owner) ∨
          owners.lookup (Text.pythonIdentifier other) = some owner := by
    intro other owner
    by_cases same : Text.pythonIdentifier other = Text.pythonIdentifier column
    · simp [same, free]
    · have apart := beq_eq_false_iff_ne.mpr same
      simp [List.lookup_cons, apart, same]
  rw [Separate, Separate, attributesDiffer_cons, List.forall_mem_cons]
  simp only [extended]
  constructor
  · rintro ⟨⟨-, owned⟩, apart, differ⟩
    refine ⟨fun other member owner found => ?_, differ⟩
    rcases found with ⟨same, rfl⟩ | found
    · exact (apart other member same).symm
    · exact owned other member owner found
  · rintro ⟨owned, differ⟩
    refine ⟨⟨fun owner found => ?_, fun other member owner found => ?_⟩,
      fun other member same => ?_, differ⟩
    · rw [free] at found
      cases found
    · exact owned other member owner (.inr found)
    · exact (owned other member column (.inl ⟨same, rfl⟩)).symm

/-- The attributes of separate columns are their identifiers, and columns that are not
separate are refused. -/
theorem attributesOwned_cases (table : String) (owners : List (String × String))
    (columns : List String) :
    (Separate owners columns ∧
      attributesOwned table owners columns = .ok (columns.map Text.pythonIdentifier)) ∨
    (¬Separate owners columns ∧
      ∃ owner column,
        attributesOwned table owners columns = .error (collision table owner column)) := by
  induction columns generalizing owners with
  | nil => exact .inl ⟨separate_nil owners, rfl⟩
  | cons column columns induction =>
      rw [attributesOwned]
      cases found : owners.lookup (Text.pythonIdentifier column) with
      | none =>
          rw [separate_cons_of_free found]
          obtain ⟨separate, passed⟩ | ⟨shared, owner, other, failed⟩ :=
            induction ((Text.pythonIdentifier column, column) :: owners)
          · exact .inl ⟨separate, by simp [passed, Except.map]⟩
          · exact .inr ⟨shared, owner, other, by simp [failed, Except.map]⟩
      | some owner =>
          by_cases same : owner = column
          · subst same
            rw [separate_cons_of_owned found]
            obtain ⟨separate, passed⟩ | ⟨shared, owner, other, failed⟩ := induction owners
            · exact .inl ⟨separate, by simp [passed, Except.map]⟩
            · exact .inr ⟨shared, owner, other, by simp [failed, Except.map]⟩
          · refine .inr ⟨?_, owner, column, by simp [same]⟩
            intro separate
            exact same (separate.1 column List.mem_cons_self owner found)

/-- Columns have attributes exactly when no two different ones share theirs. -/
theorem attributeNames_cases (table : String) (columns : List String) :
    (AttributesDiffer columns ∧
      attributeNames table columns = .ok (columns.map Text.pythonIdentifier)) ∨
    (¬AttributesDiffer columns ∧
      ∃ owner column, attributeNames table columns = .error (collision table owner column)) := by
  have unowned : Separate [] columns ↔ AttributesDiffer columns := by simp [Separate]
  rw [← unowned]
  exact attributesOwned_cases table [] columns

theorem attributeNames_eq_ok {table : String} {columns names : List String}
    (passed : attributeNames table columns = .ok names) :
    names = columns.map Text.pythonIdentifier := by
  obtain ⟨-, found⟩ | ⟨-, owner, column, failed⟩ := attributeNames_cases table columns
  · exact Except.ok.inj (passed.symm.trans found)
  · rw [passed] at failed
    cases failed

/-- Columns that are identifiers themselves are their own attributes. -/
theorem attributeNames_of_kept {columns : List String}
    (kept : ∀ column ∈ columns, Text.pythonIdentifier column = column) (table : String) :
    attributeNames table columns = .ok columns := by
  have differ : AttributesDiffer columns := by
    intro first member second memberToo same
    rwa [kept first member, kept second memberToo] at same
  obtain ⟨-, found⟩ | ⟨shared, -⟩ := attributeNames_cases table columns
  · rw [found, List.map_congr_left kept, List.map_id']
  · exact absurd differ shared

end SqlAlchemy

end OrmCode
