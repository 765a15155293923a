import Mathlib.Data.List.Forall2
import Mathlib.Data.List.Nodup
import OrmCode.Lowering.Statement
import OrmCode.Proofs.Outcome

/-!
# Keys of tables and of columns

A key of a table that names its columns letter for letter makes the same table as the
keys written at those columns.  A key that names no column, or names one only up to
letter case, is refused, although two such columns could not stand in one table.
-/

namespace OrmCode

namespace Sql

def TableConstraint.keys : TableConstraint → List Name
  | primaryKey columns => columns
  | other => []

namespace CreateTable

/-- The names in the keys of the table, in order. -/
def keys (created : CreateTable) : List String :=
  (created.constraints.flatMap TableConstraint.keys).map Name.text

def columnNames (created : CreateTable) : List String :=
  created.columns.map fun column => column.name.text

/-- The first name in the keys that no column has, letter for letter. -/
def unknownKey? (created : CreateTable) : Option String :=
  created.keys.find? fun key => !created.columnNames.contains key

/-- A CREATE TABLE that only lists columns and constraints of a table with a name. -/
def IsPlain (created : CreateTable) : Prop :=
  created.name ≠ [] ∧ created.query? = none ∧ created.like? = none

end CreateTable

/-- A column with a key among its options, wherever it stands, instead of one among the
keys of the table. -/
inductive ColumnDefinition.WithKeyOf (keys : List String) :
    ColumnDefinition → ColumnDefinition → Prop
  | key {name : Name} {type : String} {before after : List ColumnOption}
      (listed : name.text ∈ keys) :
    WithKeyOf keys ⟨name, type, before ++ after⟩ ⟨name, type, before ++ .unique true :: after⟩
  | plain {column : ColumnDefinition} (unlisted : column.name.text ∉ keys) :
    WithKeyOf keys column column

/-- The same table with its keys written at their columns. -/
structure CreateTable.WithInlineKeys (created inline : CreateTable) : Prop where
  name : inline.name = created.name
  query? : inline.query? = created.query?
  like? : inline.like? = created.like?
  columns : List.Forall₂ (ColumnDefinition.WithKeyOf created.keys) created.columns inline.columns
  constraints : ∀ constraint ∈ inline.constraints, constraint.keys = []

end Sql

/-- The column as a part of the key. -/
def Column.asKey (column : Column) : Column :=
  { column with primaryKey := true }

/-- The column as a part of the key if that lists its name. -/
def Column.withKeys (keys : List String) (column : Column) : Column :=
  if column.name ∈ keys then column.asKey else column

namespace Column

@[simp] theorem name_withKeys (keys : List String) (column : Column) :
    (column.withKeys keys).name = column.name := by
  unfold withKeys
  split <;> rfl

@[simp] theorem withKeys_nil (column : Column) : column.withKeys [] = column :=
  if_neg List.not_mem_nil

theorem withKeys_withKeys (first second : List String) (column : Column) :
    (column.withKeys first).withKeys second = column.withKeys (first ++ second) := by
  unfold withKeys
  simp only [List.mem_append]
  by_cases inFirst : column.name ∈ first <;> by_cases inSecond : column.name ∈ second <;>
    simp [inFirst, inSecond, asKey]

theorem map_name_withKeys (keys : List String) (columns : List Column) :
    (columns.map (withKeys keys)).map name = columns.map name := by
  simp

end Column

namespace Lowering

variable {columns : List Column}

theorem markKey?_eq_none {name : String} (unknown : name ∉ columns.map Column.name) :
    markKey? name columns = none := by
  induction columns with
  | nil => rfl
  | cons column columns induction =>
      rw [List.map_cons, List.mem_cons, not_or] at unknown
      rw [markKey?, if_neg (Ne.symm unknown.1), induction unknown.2, Option.map_none]

/-- Where no two columns have the same name, a key marks all columns of that name. -/
theorem markKey?_eq_some {name : String} (distinct : (columns.map Column.name).Nodup)
    (known : name ∈ columns.map Column.name) :
    markKey? name columns = some (columns.map (Column.withKeys [name])) := by
  induction columns with
  | nil => simp at known
  | cons column columns induction =>
      rw [List.map_cons, List.nodup_cons] at distinct
      rw [List.map_cons, List.mem_cons] at known
      rw [markKey?, List.map_cons]
      by_cases here : column.name = name
      · have others : columns.map (Column.withKeys [name]) = columns := by
          refine (List.map_congr_left fun other member => ?_).trans (List.map_id columns)
          have apart : other.name ≠ name := by
            rintro rfl
            exact distinct.1 (here ▸ List.mem_map_of_mem member)
          exact if_neg (mt List.mem_singleton.mp apart)
        rw [if_pos here, others, Column.withKeys, if_pos (List.mem_singleton.mpr here)]
        rfl
      · rw [if_neg here, induction distinct.2 (known.resolve_left (Ne.symm here)),
          Option.map_some, Column.withKeys, if_neg (mt List.mem_singleton.mp here)]

/-- Several keys mark all that they name, unless one of them names no column. -/
theorem foldlM_markKey (distinct : (columns.map Column.name).Nodup) (keys : List Sql.Name) :
    keys.foldlM markKey columns =
      match (keys.map Sql.Name.text).find? fun key =>
        !(columns.map Column.name).contains key with
      | some unknown => .error (.unknownKey unknown)
      | none => .ok (columns.map (Column.withKeys (keys.map Sql.Name.text))) := by
  induction keys generalizing columns with
  | nil =>
      have unchanged : columns.map (Column.withKeys []) = columns :=
        (List.map_congr_left fun column _ => column.withKeys_nil).trans (List.map_id columns)
      exact congrArg Except.ok unchanged.symm
  | cons key keys induction =>
      rw [List.foldlM_cons, List.map_cons, List.find?_cons]
      by_cases known : key.text ∈ columns.map Column.name
      · have marked := markKey?_eq_some distinct known
        have rest := @induction (columns.map (Column.withKeys [key.text]))
          (by rwa [Column.map_name_withKeys])
        rw [Column.map_name_withKeys, List.map_map] at rest
        have joined : Column.withKeys (keys.map Sql.Name.text) ∘ Column.withKeys [key.text] =
            Column.withKeys (key.text :: keys.map Sql.Name.text) :=
          funext (Column.withKeys_withKeys [key.text] _)
        rw [joined] at rest
        simp only [markKey, marked, List.contains_iff_mem.mpr known, Bool.not_true]
        exact rest
      · have none := markKey?_eq_none known
        have notListed : (columns.map Column.name).contains key.text = false := by
          simpa using known
        simp only [markKey, none, notListed, Bool.not_false]
        rfl

theorem foldlM_applyConstraint (constraints : List Sql.TableConstraint) (columns : List Column) :
    constraints.foldlM applyConstraint columns =
      (constraints.flatMap Sql.TableConstraint.keys).foldlM markKey columns := by
  induction constraints generalizing columns with
  | nil => rfl
  | cons constraint constraints induction =>
      rw [List.foldlM_cons, List.flatMap_cons, List.foldlM_append]
      cases constraint with
      | primaryKey keys => exact bind_congr fun marked => induction marked
      | other => exact induction columns

/-- An option makes of a column in the key what it makes of the column, in the key. -/
theorem withOption_asKey (column : Column) (option : Sql.ColumnOption) :
    withOption column.asKey option = (withOption column option).asKey := by
  cases option with
  | unique isPrimary => cases isPrimary <;> rfl
  | dialectSpecific tokens => simp only [withOption, apply_ite Column.asKey]; rfl
  | generated expression? => cases expression? <;> rfl
  | _ => rfl

theorem foldl_withOption_asKey (column : Column) (options : List Sql.ColumnOption) :
    options.foldl withOption column.asKey = (options.foldl withOption column).asKey := by
  induction options generalizing column with
  | nil => rfl
  | cons option options induction =>
      rw [List.foldl_cons, List.foldl_cons, withOption_asKey, induction]

@[simp] theorem name_withOption (column : Column) (option : Sql.ColumnOption) :
    (withOption column option).name = column.name := by
  fun_cases withOption <;> rfl

theorem name_foldl_withOption (column : Column) (options : List Sql.ColumnOption) :
    (options.foldl withOption column).name = column.name := by
  induction options generalizing column with
  | nil => rfl
  | cons option options induction => rw [List.foldl_cons, induction, name_withOption]

theorem name_column (definition : Sql.ColumnDefinition) :
    (column definition).name = definition.name.text :=
  name_foldl_withOption _ definition.options

theorem map_name_column (definitions : List Sql.ColumnDefinition) :
    (definitions.map column).map Column.name =
      definitions.map fun definition => definition.name.text := by
  simp [name_column]

/-- A key among the options of a column marks it, wherever it stands. -/
theorem column_of_withKeyOf {keys : List String} {definition inline : Sql.ColumnDefinition}
    (inlined : definition.WithKeyOf keys inline) :
    column inline = (column definition).withKeys keys := by
  cases inlined with
  | @key name type before after listed =>
      rw [Column.withKeys, name_column, if_pos listed, column, column, List.foldl_append,
        List.foldl_append, List.foldl_cons]
      exact foldl_withOption_asKey _ after
  | plain unlisted => rw [Column.withKeys, name_column, if_neg unlisted]

theorem map_column_of_withKeyOf {keys : List String}
    {definitions inline : List Sql.ColumnDefinition}
    (inlined : List.Forall₂ (Sql.ColumnDefinition.WithKeyOf keys) definitions inline) :
    inline.map column = (definitions.map column).map (Column.withKeys keys) := by
  induction inlined with
  | nil => rfl
  | cons first _ induction => rw [List.map_cons, column_of_withKeyOf first, induction]; rfl

/-- The columns of a table whose keys are written at them. -/
theorem foldlM_inline {created inline : Sql.CreateTable}
    (inlined : created.WithInlineKeys inline) :
    inline.constraints.foldlM applyConstraint (inline.columns.map column) =
      .ok ((created.columns.map column).map (Column.withKeys created.keys)) := by
  have noKeys : inline.constraints.flatMap Sql.TableConstraint.keys = [] :=
    List.flatMap_eq_nil_iff.mpr inlined.constraints
  rw [foldlM_applyConstraint, noKeys, map_column_of_withKeyOf inlined.columns]
  rfl

theorem foldlM_constraints {created : Sql.CreateTable}
    (distinct : (created.columnNames.map Text.lower).Nodup) :
    created.constraints.foldlM applyConstraint (created.columns.map column) =
      match created.unknownKey? with
      | some unknown => .error (.unknownKey unknown)
      | none => .ok ((created.columns.map column).map (Column.withKeys created.keys)) := by
  have names := map_name_column created.columns
  have different : ((created.columns.map column).map Column.name).Nodup := by
    rw [names]
    exact List.Nodup.of_map Text.lower distinct
  rw [foldlM_applyConstraint, foldlM_markKey different, names]
  rfl

/-- A table whose keys name columns letter for letter is the one with the keys written at
those columns.  For the first key that names none, even if it names one in another letter
case, a table is refused that would be defined with its keys written at the columns. -/
theorem definition_of_withInlineKeys {created inline : Sql.CreateTable}
    (distinct : (created.columnNames.map Text.lower).Nodup)
    (inlined : created.WithInlineKeys inline) :
    (definition created = do
      let table ← definition inline
      match created.unknownKey? with
      | some unknown => throw (.unknownKey unknown)
      | none => return table) ∧
    (created.IsPlain → ∃ table, definition inline = .ok table) := by
  constructor
  · simp only [definition, inlined.name, inlined.query?, inlined.like?, foldlM_inline inlined,
      foldlM_constraints distinct, bind_assoc]
    refine bind_congr fun _ => bind_congr fun _ => bind_congr fun table => ?_
    cases created.unknownKey? <;> rfl
  · rintro ⟨named, query, like⟩
    rw [definition, inlined.query?, inlined.like?, query, like, inlined.name, tableName,
      List.getLast?_eq_some_getLast named, foldlM_inline inlined]
    exact ⟨_, rfl⟩

/-- The table `t (id INT NOT NULL, Name TEXT, PRIMARY KEY (Name, ID))`. -/
def capitalKeyTable : Sql.CreateTable where
  name := [⟨"t", none⟩]
  columns := [⟨⟨"id", none⟩, "INT", [.notNull]⟩, ⟨⟨"Name", none⟩, "TEXT", []⟩]
  constraints := [.primaryKey [⟨"Name", none⟩, ⟨"ID", none⟩]]

/-- The same table with the key written at the column that it names letter for letter. -/
def capitalKeyInline : Sql.CreateTable where
  name := [⟨"t", none⟩]
  columns := [⟨⟨"id", none⟩, "INT", [.notNull]⟩, ⟨⟨"Name", none⟩, "TEXT", [.unique true]⟩]

/-- The key `ID` is not found although it names the column `id` up to letter case. -/
theorem definition_of_capitalKey :
    (capitalKeyTable.columnNames.map Text.lower).Nodup ∧
      capitalKeyTable.WithInlineKeys capitalKeyInline ∧
      definition capitalKeyTable = .error (.unknownKey "ID") ∧
      ∃ table, definition capitalKeyInline = .ok table := by
  have distinct : (capitalKeyTable.columnNames.map Text.lower).Nodup := by decide
  have marked : Sql.ColumnDefinition.WithKeyOf capitalKeyTable.keys ⟨⟨"Name", none⟩, "TEXT", []⟩
      ⟨⟨"Name", none⟩, "TEXT", [.unique true]⟩ :=
    @Sql.ColumnDefinition.WithKeyOf.key _ _ _ [] [] (by decide)
  have inlined : capitalKeyTable.WithInlineKeys capitalKeyInline :=
    { name := rfl
      query? := rfl
      like? := rfl
      columns := .cons (.plain (by decide)) (.cons marked .nil)
      constraints := nofun }
  obtain ⟨told, defined⟩ := definition_of_withInlineKeys distinct inlined
  exact ⟨distinct, inlined, told.trans rfl, defined ⟨List.cons_ne_nil _ _, rfl, rfl⟩⟩

end Lowering

end OrmCode
