import Mathlib.Data.List.Basic
import OrmCode.Code.TypeTables

/-!
# Counterparts of column types

Both targets know the same column types.
-/

namespace OrmCode

theorem TargetType.render_eq (type : TargetType) (arguments : List String) :
    type.render arguments =
      if type.sized = true ∧ arguments ≠ [] then
        type.name ++ "(" ++ ", ".intercalate arguments ++ ")"
      else type.name := by
  simp only [render, Bool.and_eq_true, Bool.not_eq_true', List.isEmpty_eq_false_iff]

namespace TypeTable

/-- The names of the column types that a table has a counterpart for. -/
def names (table : TypeTable) : List String :=
  table.entries.map Prod.fst

theorem isSome_get?_iff (table : TypeTable) (name : String) :
    (table.get? name).isSome = true ↔ Text.lower (Text.trim name) ∈ table.names := by
  rw [get?, names, List.lookup_isSome_iff, List.mem_map]
  simp only [beq_iff_eq, @eq_comm _ (Text.lower (Text.trim name))]

theorem map_of_find? {table : TypeTable} {written : String} {type : TargetType}
    (found : table.find? (ColumnType.ofText written).name = some type) :
    table.map written = ⟨type.render (ColumnType.ofText written).arguments, true⟩ := by
  simp only [map, found]

theorem map_of_find?_eq_none {table : TypeTable} {written : String}
    (missing : table.find? (ColumnType.ofText written).name = none) :
    table.map written = ⟨table.fallback.name, false⟩ := by
  simp only [map, missing]

theorem known_map (table : TypeTable) (written : String) :
    (table.map written).known = (table.find? (ColumnType.ofText written).name).isSome := by
  rw [TypeTable.map]
  cases table.find? (ColumnType.ofText written).name <;> rfl

/-- A type is known when its whole name or its first word has a counterpart. -/
theorem known_map_iff (table : TypeTable) (written : String) :
    (table.map written).known = true ↔
      (table.get? (ColumnType.ofText written).name).isSome = true ∨
        ∃ word ∈ (Text.words (ColumnType.ofText written).name).head?,
          (table.get? word).isSome = true := by
  rw [known_map, find?]
  cases table.get? (ColumnType.ofText written).name with
  | some type => simp
  | none => cases (Text.words (ColumnType.ofText written).name).head? <;> simp

theorem known_map_congr {table other : TypeTable} (same : table.names = other.names)
    (written : String) : (table.map written).known = (other.map written).known := by
  rw [Bool.eq_iff_iff, known_map_iff, known_map_iff]
  simp only [isSome_get?_iff, same]

theorem exists_mem_of_get? {table : TypeTable} {name : String} {type : TargetType}
    (found : table.get? name = some type) : ∃ entry ∈ table.entries, entry.2 = type := by
  obtain ⟨before, after, same, -⟩ := List.lookup_eq_some_iff.mp found
  exact ⟨_, same ▸ List.mem_append_right before List.mem_cons_self, rfl⟩

theorem exists_mem_of_find? {table : TypeTable} {name : String} {type : TargetType}
    (found : table.find? name = some type) : ∃ entry ∈ table.entries, entry.2 = type := by
  rw [find?] at found
  cases whole : table.get? name with
  | some known =>
      rw [whole] at found
      exact exists_mem_of_get? (whole.trans found)
  | none =>
      rw [whole] at found
      obtain ⟨word, -, first⟩ := Option.bind_eq_some_iff.mp found
      exact exists_mem_of_get? first

/-- The counterpart of a written type, known or not. -/
def counterpart (table : TypeTable) (written : String) : TargetType :=
  (table.find? (ColumnType.ofText written).name).getD table.fallback

theorem counterpart_mem (table : TypeTable) (written : String) :
    table.counterpart written ∈ table.fallback :: table.entries.map Prod.snd := by
  rw [counterpart]
  cases found : table.find? (ColumnType.ofText written).name with
  | none => exact List.mem_cons_self
  | some type =>
      obtain ⟨entry, member, rfl⟩ := exists_mem_of_find? found
      exact List.mem_cons_of_mem _ (List.mem_map_of_mem member)

theorem rendered_map {table : TypeTable} (unsized : table.fallback.sized = false)
    (written : String) : (table.map written).rendered =
      (table.counterpart written).render (ColumnType.ofText written).arguments := by
  rw [map, counterpart]
  cases table.find? (ColumnType.ofText written).name with
  | none =>
      rw [Option.getD_none, TargetType.render, unsized, Bool.false_and, if_neg Bool.false_ne_true]
  | some type => rfl

end TypeTable

theorem names_types (target : Target) : target.types.names = sequelizeTypes.names := by
  cases target with
  | sequelize => rfl
  | sqlAlchemy => decide +kernel

theorem Target.rendered_types (target : Target) (written : String) :
    (target.types.map written).rendered =
      (target.types.counterpart written).render (ColumnType.ofText written).arguments :=
  TypeTable.rendered_map (by cases target <;> rfl) written

end OrmCode
