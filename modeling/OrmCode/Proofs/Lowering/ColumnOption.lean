import Mathlib.Data.List.Induction
import Mathlib.Data.List.Perm.Basic
import OrmCode.Proofs.Lowering.Counting
import OrmCode.Proofs.Lowering.Default
import OrmCode.Proofs.Lowering.Key

/-!
# Options of columns

The options of a column may stand in any order, unless two of them say different things
about the same property.  A property of the column holds if some option says so, and a
column also counts up if its type is one of the three serial ones.
-/

namespace OrmCode

namespace Sql

namespace ColumnOption

/-- Whether an option says that a column is part of the key. -/
def isPrimaryKey : ColumnOption → Bool
  | unique isPrimary => isPrimary
  | _ => false

/-- Whether an option says that the values of a column differ. -/
def isUnique : ColumnOption → Bool
  | unique isPrimary => !isPrimary
  | _ => false

/-- Whether an option says that a column counts up. -/
def isCounting : ColumnOption → Bool
  | dialectSpecific tokens => decide (SpellAutoIncrement tokens)
  | generated none => true
  | _ => false

/-- Whether a column may be empty, if an option says so. -/
def nullable? : ColumnOption → Option Bool
  | null => some true
  | notNull => some false
  | _ => none

/-- The default that an option gives. -/
def default? : ColumnOption → Option Expr
  | default expression => some expression
  | _ => none

/-- Whether two options do not say different things about the same property. -/
structure Agrees (first second : ColumnOption) : Prop where
  nullable : ∀ one ∈ first.nullable?, ∀ other ∈ second.nullable?, one = other
  default : ∀ one ∈ first.default?, ∀ other ∈ second.default?, one = other

theorem isPrimaryKey_iff {option : ColumnOption} :
    option.isPrimaryKey = true ↔ option = unique true := by
  cases option <;> simp [isPrimaryKey]

theorem isUnique_iff {option : ColumnOption} : option.isUnique = true ↔ option = unique false := by
  cases option <;> simp [isUnique]

theorem isCounting_iff {option : ColumnOption} :
    option.isCounting = true ↔
      (∃ tokens, option = dialectSpecific tokens ∧ SpellAutoIncrement tokens) ∨
        option = generated none := by
  fun_cases isCounting <;> simp_all

theorem nullable?_eq_some_iff {option : ColumnOption} {nullable : Bool} :
    option.nullable? = some nullable ↔
      option = null ∧ nullable = true ∨ option = notNull ∧ nullable = false := by
  cases option <;> simp [nullable?, eq_comm]

theorem default?_eq_some_iff {option : ColumnOption} {expression : Expr} :
    option.default? = some expression ↔ option = default expression := by
  cases option <;> simp [default?]

theorem mem_filterMap_default? {options : List ColumnOption} {expression : Expr} :
    expression ∈ options.filterMap default? ↔ default expression ∈ options := by
  simp [default?_eq_some_iff]

end ColumnOption

namespace ColumnDefinition

/-- A column is not both nullable and not nullable, and has at most one default. -/
structure IsDefinite (definition : ColumnDefinition) : Prop where
  nullability : ¬(.null ∈ definition.options ∧ .notNull ∈ definition.options)
  default : (definition.options.filterMap ColumnOption.default?).length ≤ 1

variable {definition : ColumnDefinition} (definite : definition.IsDefinite)

include definite

theorem IsDefinite.getLast?_default_iff {expression : Expr} :
    (definition.options.filterMap ColumnOption.default?).getLast? = some expression ↔
      .default expression ∈ definition.options := by
  rw [← ColumnOption.mem_filterMap_default?]
  refine ⟨List.mem_of_getLast?, fun member => ?_⟩
  obtain ⟨only, single⟩ := List.length_eq_one_iff.mp
    (Nat.le_antisymm definite.default (List.length_pos_of_mem member))
  rw [single, List.mem_singleton] at member
  rw [single, member, List.getLast?_singleton]

theorem IsDefinite.agrees {first second : ColumnOption} (one : first ∈ definition.options)
    (other : second ∈ definition.options) : first.Agrees second where
  nullable said given saidToo givenToo := by
    obtain ⟨rfl, rfl⟩ | ⟨rfl, rfl⟩ := ColumnOption.nullable?_eq_some_iff.mp given <;>
      obtain ⟨rfl, rfl⟩ | ⟨rfl, rfl⟩ := ColumnOption.nullable?_eq_some_iff.mp givenToo
    · rfl
    · exact absurd ⟨one, other⟩ definite.nullability
    · exact absurd ⟨other, one⟩ definite.nullability
    · rfl
  default said given saidToo givenToo := by
    obtain rfl := ColumnOption.default?_eq_some_iff.mp given
    obtain rfl := ColumnOption.default?_eq_some_iff.mp givenToo
    have last := definite.getLast?_default_iff.mpr one
    exact Option.some.inj (last.symm.trans (definite.getLast?_default_iff.mpr other))

end ColumnDefinition

end Sql

namespace Lowering

/-- What an option makes of a column, property by property. -/
theorem withOption_eq (column : Column) (option : Sql.ColumnOption) :
    withOption column option =
      { column with
        nullable := option.nullable?.getD column.nullable
        primaryKey := column.primaryKey || option.isPrimaryKey
        autoIncrement := column.autoIncrement || option.isCounting
        unique := column.unique || option.isUnique
        default? := (option.default?.map defaultValue).or column.default? } := by
  simp only [Sql.ColumnOption.isCounting, ← countsUp_iff]
  fun_cases withOption <;> simp_all [Sql.ColumnOption.nullable?, Sql.ColumnOption.isPrimaryKey,
    Sql.ColumnOption.isUnique, Sql.ColumnOption.default?]

/-- Two options that agree may be exchanged. -/
theorem withOption_comm {first second : Sql.ColumnOption} (agree : first.Agrees second)
    (column : Column) :
    withOption (withOption column first) second = withOption (withOption column second) first := by
  have nullable : second.nullable?.getD (first.nullable?.getD column.nullable) =
      first.nullable?.getD (second.nullable?.getD column.nullable) := by
    have same := agree.nullable
    cases said : first.nullable? <;> cases saidToo : second.nullable? <;> simp_all
  have default : (second.default?.map defaultValue).or
        ((first.default?.map defaultValue).or column.default?) =
      (first.default?.map defaultValue).or
        ((second.default?.map defaultValue).or column.default?) := by
    have same := agree.default
    cases said : first.default? <;> cases saidToo : second.default? <;> simp_all
  simp only [withOption_eq, nullable, default, Bool.or_right_comm]

theorem getLast?_filterMap_concat {Item Found : Type} (found? : Item → Option Found)
    (items : List Item) (last : Item) :
    ((items ++ [last]).filterMap found?).getLast? =
      (found? last).or (items.filterMap found?).getLast? := by
  rw [List.filterMap_append, List.getLast?_append]
  cases found : found? last <;> simp [found]

/-- What options make of a column, property by property; the last word about what may be empty and
about the default counts. -/
theorem foldl_withOption_eq (options : List Sql.ColumnOption) (column : Column) :
    options.foldl withOption column =
      { column with
        nullable := (options.filterMap Sql.ColumnOption.nullable?).getLast?.getD column.nullable
        primaryKey := column.primaryKey || options.any Sql.ColumnOption.isPrimaryKey
        autoIncrement := column.autoIncrement || options.any Sql.ColumnOption.isCounting
        unique := column.unique || options.any Sql.ColumnOption.isUnique
        default? := ((options.filterMap Sql.ColumnOption.default?).getLast?.map defaultValue).or
          column.default? } := by
  induction options using List.reverseRecOn with
  | nil => simp
  | append_singleton options option induction =>
      rw [List.foldl_append, List.foldl_cons, List.foldl_nil, induction, withOption_eq]
      simp only [getLast?_filterMap_concat, List.any_append, List.any_cons, List.any_nil,
        Bool.or_false, Bool.or_assoc]
      cases option.nullable? <;> cases option.default? <;> simp

section Properties

variable (definition : Sql.ColumnDefinition)

theorem sqlType_column : (column definition).sqlType = definition.type := by
  rw [column, foldl_withOption_eq]

theorem primaryKey_column :
    (column definition).primaryKey = true ↔ .unique true ∈ definition.options := by
  simp [column, foldl_withOption_eq, Sql.ColumnOption.isPrimaryKey_iff]

theorem unique_column :
    (column definition).unique = true ↔ .unique false ∈ definition.options := by
  simp [column, foldl_withOption_eq, Sql.ColumnOption.isUnique_iff]

/-- A column counts up if its type or an option says so. -/
theorem autoIncrement_column :
    (column definition).autoIncrement = true ↔
      Sql.IsSerialType definition.type ∨
        (∃ tokens, .dialectSpecific tokens ∈ definition.options ∧ Sql.SpellAutoIncrement tokens) ∨
        .generated none ∈ definition.options := by
  rw [column, foldl_withOption_eq]
  simp only [Bool.or_eq_true, isSerial_iff_isSerialType, List.any_eq_true,
    Sql.ColumnOption.isCounting_iff, and_or_left, exists_or]
  refine or_congr_right (or_congr ?_ (by simp))
  constructor
  · rintro ⟨_, member, tokens, rfl, spell⟩
    exact ⟨tokens, member, spell⟩
  · rintro ⟨tokens, member, spell⟩
    exact ⟨_, member, tokens, rfl, spell⟩

variable {definition} (definite : definition.IsDefinite)

include definite

theorem nullable_column :
    (column definition).nullable = false ↔ .notNull ∈ definition.options := by
  rw [column, foldl_withOption_eq]
  cases said : (definition.options.filterMap Sql.ColumnOption.nullable?).getLast? with
  | none =>
      rw [List.getLast?_eq_none_iff, List.filterMap_eq_nil_iff] at said
      have silent : .notNull ∉ definition.options := fun member => by cases said _ member
      exact iff_of_false Bool.true_eq_false.mp silent
  | some last =>
      obtain ⟨option, member, given⟩ := List.mem_filterMap.mp (List.mem_of_getLast? said)
      obtain ⟨rfl, rfl⟩ | ⟨rfl, rfl⟩ := Sql.ColumnOption.nullable?_eq_some_iff.mp given
      · exact iff_of_false Bool.true_eq_false.mp fun refused =>
          definite.nullability ⟨member, refused⟩
      · exact iff_of_true rfl member

theorem default?_column {value : DefaultValue} :
    (column definition).default? = some value ↔
      ∃ expression, .default expression ∈ definition.options ∧ GivesDefault expression value := by
  rw [column, foldl_withOption_eq, Option.or_none, Option.map_eq_some_iff]
  exact exists_congr fun expression =>
    and_congr definite.getLast?_default_iff (defaultValue_eq_iff expression value)

end Properties

/-- The options of a column may come in any order, and each property of it holds exactly if
one of them, or a serial type, says so. -/
theorem column_of_perm {definition : Sql.ColumnDefinition} (definite : definition.IsDefinite)
    {options : List Sql.ColumnOption} (reordered : definition.options.Perm options) :
    column { definition with options } = column definition ∧
      (column definition).name = definition.name.text ∧
      (column definition).sqlType = definition.type ∧
      ((column definition).primaryKey = true ↔ .unique true ∈ definition.options) ∧
      ((column definition).unique = true ↔ .unique false ∈ definition.options) ∧
      ((column definition).autoIncrement = true ↔ Sql.IsSerialType definition.type ∨
        (∃ tokens, .dialectSpecific tokens ∈ definition.options ∧
          Sql.SpellAutoIncrement tokens) ∨
        .generated none ∈ definition.options) ∧
      ((column definition).nullable = false ↔ .notNull ∈ definition.options) ∧
      ∀ value, (column definition).default? = some value ↔
        ∃ expression, .default expression ∈ definition.options ∧
          GivesDefault expression value := by
  refine ⟨?_, name_column definition, sqlType_column definition, primaryKey_column definition,
    unique_column definition, autoIncrement_column definition, nullable_column definite,
    fun _ => default?_column definite⟩
  have same := reordered.foldl_eq' fun first one second other made =>
    withOption_comm (definite.agrees one other) made
  exact (same _).symm

/-- The column `at TIMESTAMP UNIQUE DEFAULT NOW() NOT NULL GENERATED ALWAYS AS IDENTITY`. -/
def generatedColumn : Sql.ColumnDefinition where
  name := ⟨"at", none⟩
  type := "TIMESTAMP"
  options := [.unique false, .default (.call [⟨"NOW", none⟩] "()"), .notNull, .generated none]

/-- The column `id BigSerial (8) PRIMARY KEY ASC`. -/
def serialColumn : Sql.ColumnDefinition where
  name := ⟨"id", none⟩
  type := "BigSerial (8)"
  options := [.unique true, .dialectSpecific [.word "ASC" none]]

/-- A column with its options from the last to the first, and one that counts up by its type. -/
theorem column_of_reversedOptions :
    generatedColumn.IsDefinite ∧
      column { generatedColumn with options := generatedColumn.options.reverse } =
        column generatedColumn ∧
      (column generatedColumn).autoIncrement = true ∧
      (column generatedColumn).nullable = false ∧
      (column generatedColumn).primaryKey = false ∧
      (column generatedColumn).default? = some .currentTimestamp ∧
      serialColumn.IsDefinite ∧
      column { serialColumn with options := serialColumn.options.reverse } =
        column serialColumn ∧
      (column serialColumn).autoIncrement = true ∧ (column serialColumn).primaryKey = true ∧
      (column { serialColumn with type := "BigInt (8)" }).autoIncrement = false := by
  have definite : generatedColumn.IsDefinite :=
    ⟨by simp [generatedColumn], by decide⟩
  obtain ⟨same, -, -, key, -, counting, required, default⟩ :=
    column_of_perm definite generatedColumn.options.reverse_perm.symm
  have definiteToo : serialColumn.IsDefinite := ⟨by simp [serialColumn], by decide⟩
  obtain ⟨sameToo, -, -, keyToo, -, countingToo, -⟩ :=
    column_of_perm definiteToo serialColumn.options.reverse_perm.symm
  have serial : Sql.IsSerialType serialColumn.type :=
    ⟨"BigSerial ", "(8)", by decide, by decide, .inr ⟨"8)", by decide⟩, by decide⟩
  refine ⟨definite, same, counting.mpr (by simp [generatedColumn]),
    required.mpr (by simp [generatedColumn]), ?_, ?_, definiteToo, sameToo,
    countingToo.mpr (.inl serial), keyToo.mpr (by simp [serialColumn]), by decide⟩
  · exact Bool.eq_false_iff.mpr (mt key.mp (by simp [generatedColumn]))
  · exact (default _).mpr ⟨.call [⟨"NOW", none⟩] "()", by simp [generatedColumn],
      .currentTime (by decide)⟩

end Lowering

end OrmCode
