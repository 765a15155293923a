import OrmCode.Code.Context
import OrmCode.Proofs.ColumnType.Name
import OrmCode.Proofs.Lowering.ColumnOption

/-!
# Types that count up by themselves

Three types make a column count up without an option that says so.  The tables of the targets
have two of them as types of whole numbers.  The small one is missing there, so that its
columns are refused or become texts that count up.
-/

namespace OrmCode

namespace ColumnType

/-- The arguments of a type open next to its name and do not close. -/
def IsUnclosed (written : String) : Prop :=
  ∃ name rest, '(' ∉ name.toList ∧ ')' ∉ rest.toList ∧
    (∀ last ∈ name.toList.getLast?, Text.isBlank last = false) ∧ written = name ++ "(" ++ rest

/-- What stands before and behind the first opening parenthesis. -/
theorem eq_of_append_opening {name other rest after : String} (first : '(' ∉ name.toList)
    (otherFirst : '(' ∉ other.toList) (same : name ++ "(" ++ rest = other ++ "(" ++ after) :
    name = other ∧ rest = after := by
  have characters : name.toList ++ '(' :: rest.toList = other.toList ++ '(' :: after.toList := by
    simpa using congrArg String.toList same
  have names := congrArg (List.takeWhile (· != '(')) characters
  rw [takeWhile_ne_append_cons first, takeWhile_ne_append_cons otherFirst] at names
  rw [names] at characters
  exact ⟨String.toList_inj.mp names,
    String.toList_inj.mp (List.cons.inj (List.append_cancel_left characters)).2⟩

theorem isUnclosed_iff {name rest : String} (first : '(' ∉ name.toList)
    (unclosed : ')' ∉ rest.toList) :
    IsUnclosed (name ++ "(" ++ rest) ↔
      ∀ last ∈ name.toList.getLast?, Text.isBlank last = false := by
  constructor
  · rintro ⟨other, after, otherFirst, -, ends, same⟩
    obtain ⟨rfl, -⟩ := eq_of_append_opening first otherFirst same
    exact ends
  · exact fun ends => ⟨name, rest, first, unclosed, ends, rfl⟩

theorem not_isUnclosed_of_closed {name : String} (first : '(' ∉ name.toList)
    (between after : String) : ¬IsUnclosed (name ++ "(" ++ between ++ ")" ++ after) := by
  rintro ⟨other, rest, otherFirst, unclosed, -, same⟩
  rw [String.append_assoc, String.append_assoc] at same
  obtain ⟨-, rfl⟩ := eq_of_append_opening first otherFirst same
  exact unclosed (by simp)

theorem not_isUnclosed_of_bare {written : String} (bare : '(' ∉ written.toList) :
    ¬IsUnclosed written := by
  rintro ⟨name, rest, -, -, -, rfl⟩
  exact bare (by simp)

end ColumnType

/-- The whole numbers of a target. -/
def Target.integerName : Target → String
  | sequelize => "DataTypes.INTEGER"
  | sqlAlchemy => "Integer"

def Target.bigIntegerName : Target → String
  | sequelize => "DataTypes.BIGINT"
  | sqlAlchemy => "BigInteger"

namespace Lowering

section Word

variable (target : Target) {word : String} (serial : Text.upper word ∈ serialTypes)

include serial

theorem lower_mem_of_serial : Text.lower word ∈ serialTypes.map Text.lower := by
  rw [← Text.lower_upper]
  exact List.mem_map_of_mem serial

theorem isWord_of_serial : Text.IsWord word := by
  have each : ∀ small ∈ serialTypes.map Text.lower, Text.IsWord small := by
    decide +kernel
  exact Text.isWord_of_lower (each _ (lower_mem_of_serial serial))

/-- Before a blank or the end such a word alone decides what the type becomes. -/
theorem find?_of_serial {blanks rest : String} (blank : Text.allBlank blanks = true)
    (starts : Text.StartsBlank rest) :
    target.types.find? (ColumnType.normalizedName (blanks ++ word ++ rest)) =
      target.types.entries.lookup (Text.lower word) := by
  -- No name of the tables goes on behind such a word, so that a known name is the word.
  have single : ∀ name ∈ target.types.names, ∀ small ∈ serialTypes.map Text.lower,
      (Text.words name).head? = some small → Text.words name = [small] := by
    rw [names_types]
    decide +kernel
  have words : Text.words (Text.lower (blanks ++ word ++ rest)) =
      Text.lower word :: (Text.words rest).map Text.lower := by
    rw [Text.words_lower, Text.words_first_word blank (isWord_of_serial serial) starts,
      List.map_cons]
  rw [TypeTable.find?_normalizedName, words, List.head?_cons, Option.bind_some]
  cases found : target.types.entries.lookup
      (ColumnType.normalizedName (blanks ++ word ++ rest)) with
  | none => rfl
  | some type =>
      have known := (target.types.isSome_lookup_iff _).mp (Option.isSome_iff_exists.mpr ⟨_, found⟩)
      have alone := single _ known _ (lower_mem_of_serial serial)
        (by rw [ColumnType.words_normalizedName, words, List.head?_cons])
      rw [ColumnType.words_normalizedName] at alone
      rw [ColumnType.normalizedName_eq, alone, String.intercalate_singleton] at found
      rw [found, Option.some_or]

end Word

/-- So it does with blanks around it. -/
theorem find?_of_serial_trim (target : Target) {name rest : String}
    (serial : Text.upper (Text.trim name) ∈ serialTypes) (starts : Text.StartsBlank rest) :
    target.types.find? (ColumnType.normalizedName (name ++ rest)) =
      target.types.entries.lookup (Text.lower (Text.upper (Text.trim name))) := by
  obtain ⟨blanks, trailing, blank, blankBehind, split⟩ := Text.pads_trim name
  generalize Text.trim name = word at *
  subst split
  have behind := Text.StartsBlank.of_allBlank_append blankBehind starts
  rw [Text.lower_upper, ← find?_of_serial target serial blank behind, String.append_assoc]

/-- A parenthesis next to such a word makes it another word, behind a blank it does not. -/
theorem find?_of_serial_unclosed (target : Target) {name : String}
    (serial : Text.upper (Text.trim name) ∈ serialTypes) (rest : String) :
    (¬(∀ last ∈ name.toList.getLast?, Text.isBlank last = false) ∧
        target.types.find? (ColumnType.normalizedName (name ++ "(" ++ rest)) =
          target.types.entries.lookup (Text.lower (Text.upper (Text.trim name)))) ∨
      (∀ last ∈ name.toList.getLast?, Text.isBlank last = false) ∧
        target.types.find? (ColumnType.normalizedName (name ++ "(" ++ rest)) = none := by
  obtain ⟨blanks, trailing, blank, blankBehind, split⟩ := Text.pads_trim name
  generalize Text.trim name = word at *
  subst split
  rw [Text.getLast?_word_iff (isWord_of_serial serial) blankBehind]
  by_cases nothing : trailing = ""
  · subst nothing
    refine .inr ⟨rfl, ?_⟩
    rw [String.append_empty, String.append_assoc]
    exact target.lacks_parenthesis.find?_word_append blank (isWord_of_serial serial) rest
  · have starts := (Text.startsBlank_of_allBlank blankBehind).append nothing ("(" ++ rest)
    refine .inl ⟨nothing, ?_⟩
    rw [Text.lower_upper, ← find?_of_serial target serial blank starts]
    simp only [String.append_assoc]

open ColumnType (IsUnclosed)

/-- The name of such a type decides what it becomes, unless its arguments do not close. -/
theorem find?_of_isSerial (target : Target) {type : String} (serial : isSerial type = true) :
    ¬IsUnclosed type ∧ target.types.find? (ColumnType.ofText type).name =
        target.types.entries.lookup (Text.lower (serialName type)) ∨
      IsUnclosed type ∧ target.types.find? (ColumnType.ofText type).name = none := by
  rw [isSerial_iff] at serial
  obtain ⟨outside, isOutside⟩ := ColumnType.exists_isOutside type
  rw [ColumnType.name_of_isOutside isOutside]
  cases isOutside with
  | @closed name between after first last =>
      have named : serialName (name ++ "(" ++ between ++ ")" ++ after) =
          Text.upper (Text.trim name) := by
        rw [String.append_assoc, String.append_assoc, serialName_of_opening first]
      rw [named] at serial ⊢
      refine .inl ⟨ColumnType.not_isUnclosed_of_closed first between after, ?_⟩
      rw [String.append_assoc]
      exact find?_of_serial_trim target serial (Text.startsBlank_space after)
  | @unclosed name rest first unclosed =>
      rw [serialName_of_opening first] at serial ⊢
      rw [ColumnType.isUnclosed_iff first unclosed]
      exact find?_of_serial_unclosed target serial rest
  | bare bare =>
      rw [serialName_of_bare bare] at serial ⊢
      refine .inl ⟨ColumnType.not_isUnclosed_of_bare bare, ?_⟩
      have nothing : Text.StartsBlank "" := Text.startsBlank_of_allBlank rfl
      have found := find?_of_serial_trim target serial nothing
      rwa [String.append_empty] at found

section Mapped

variable (target : Target) {type : String} (serial : isSerial type = true)

include serial

/-- The tables have such a type as whole numbers, unless it is the small one. -/
theorem lookup_serialName :
    serialName type ≠ "SMALLSERIAL" ∧
        target.types.entries.lookup (Text.lower (serialName type)) =
          some ⟨if serialName type = "BIGSERIAL" then target.bigIntegerName else target.integerName,
            false⟩ ∨
      serialName type = "SMALLSERIAL" ∧
        target.types.entries.lookup (Text.lower (serialName type)) = none := by
  rw [isSerial_iff] at serial
  have each : ∀ name ∈ serialTypes,
      name ≠ "SMALLSERIAL" ∧ target.types.entries.lookup (Text.lower name) =
          some ⟨if name = "BIGSERIAL" then target.bigIntegerName else target.integerName, false⟩ ∨
        name = "SMALLSERIAL" ∧ target.types.entries.lookup (Text.lower name) = none := by
    cases target <;> decide +kernel
  exact each _ serial

theorem map_of_isSerial :
    serialName type ≠ "SMALLSERIAL" ∧ ¬IsUnclosed type ∧ target.types.map type =
        ⟨if serialName type = "BIGSERIAL" then target.bigIntegerName else target.integerName, true⟩ ∨
      (serialName type = "SMALLSERIAL" ∨ IsUnclosed type) ∧
        target.types.map type = ⟨target.types.fallback.name, false⟩ := by
  obtain ⟨closed, found⟩ | ⟨unclosed, missing⟩ := find?_of_isSerial target serial
  · obtain ⟨other, known⟩ | ⟨small, unknown⟩ := lookup_serialName target serial
    · refine .inl ⟨other, closed, ?_⟩
      rw [TypeTable.map_of_find? (found.trans known), TargetType.render, Bool.false_and,
        if_neg Bool.false_ne_true]
    · exact .inr ⟨.inl small, TypeTable.map_of_find?_eq_none (found.trans unknown)⟩
  · exact .inr ⟨.inr unclosed, TypeTable.map_of_find?_eq_none missing⟩

end Mapped

/-- A column whose type makes it count up has a type of whole numbers in both targets exactly
if that is not the small one and its arguments close.  Strict settings refuse it otherwise, and
lenient ones make a text of it that counts up. -/
theorem columnType_of_serial (target : Target) (settings : Settings)
    {definition : Sql.ColumnDefinition}
    (serial : (column { definition with options := [] }).autoIncrement = true) :
    serialName definition.type ∈ serialTypes ∧ (column definition).autoIncrement = true ∧
      ((target.types.map definition.type).known = true ↔
        serialName definition.type ≠ "SMALLSERIAL" ∧ ¬IsUnclosed definition.type) ∧
      ((target.types.map definition.type).known = true →
        (target.types.map definition.type).rendered =
          if serialName definition.type = "BIGSERIAL" then target.bigIntegerName
          else target.integerName) ∧
      ((target.types.map definition.type).known = false →
        (target.types.map definition.type).rendered = target.types.fallback.name) ∧
      (settings.unknownTypes = .strict →
        ((∃ type, Context.columnType ⟨target, settings⟩ (column definition) = .ok type) ↔
          (target.types.map definition.type).known = true)) ∧
      (settings.unknownTypes = .lenient →
        (Context.columnType ⟨target, settings⟩ (column definition) =
            .ok target.types.fallback.name ↔
          (target.types.map definition.type).known = false)) := by
  have isSerial : isSerial definition.type = true := by
    simpa [column] using serial
  have apart : (if serialName definition.type = "BIGSERIAL" then target.bigIntegerName
      else target.integerName) ≠ target.types.fallback.name := by
    split <;> cases target <;> decide
  refine ⟨(isSerial_iff _).mp isSerial,
    (autoIncrement_column definition).mpr (.inl ((isSerial_iff_isSerialType _).mp isSerial)), ?_⟩
  have becomes := map_of_isSerial target isSerial
  rw [Context.columnType, sqlType_column]
  generalize target.types.map definition.type = mapped at becomes ⊢
  obtain ⟨other, closed, rfl⟩ | ⟨missing, rfl⟩ := becomes <;> dsimp only
  · refine ⟨iff_of_true rfl ⟨other, closed⟩, fun _ => rfl, fun unknown => Bool.noConfusion unknown,
      fun _ => iff_of_true ⟨_, rfl⟩ rfl, fun _ => ?_⟩
    exact iff_of_false (fun same => apart (Except.ok.inj same)) Bool.true_eq_false.mp
  · have unsound : ¬(serialName definition.type ≠ "SMALLSERIAL" ∧ ¬IsUnclosed definition.type) :=
      fun sound => missing.elim sound.1 sound.2
    refine ⟨iff_of_false Bool.false_ne_true unsound, fun known => Bool.noConfusion known,
      fun _ => rfl, fun strict => ?_, fun lenient => ?_⟩
    · rw [strict]
      exact iff_of_false (fun accepted => by cases accepted.choose_spec) Bool.false_ne_true
    · rw [lenient]
      exact iff_of_true rfl rfl

/-- The column `id SmallSerial`. -/
def smallSerialColumn : Sql.ColumnDefinition where
  name := ⟨"id", none⟩
  type := "SmallSerial"
  options := []

/-- A small number that counts up is refused by strict settings, and is a text otherwise. -/
theorem columnType_smallSerial :
    (column smallSerialColumn).autoIncrement = true ∧
      (¬∃ type, Context.columnType ⟨.sequelize, Settings.strict {}⟩ (column smallSerialColumn) =
        .ok type) ∧
      Context.columnType ⟨.sequelize, {}⟩ (column smallSerialColumn) = .ok "DataTypes.STRING" := by
  have serial : (column smallSerialColumn).autoIncrement = true := by
    decide +kernel
  have small : serialName smallSerialColumn.type = "SMALLSERIAL" := by
    decide +kernel
  obtain ⟨-, counts, known, -, -, strict, -⟩ :=
    @columnType_of_serial .sequelize (Settings.strict {}) smallSerialColumn serial
  obtain ⟨-, -, -, -, -, -, lenient⟩ := @columnType_of_serial .sequelize {} smallSerialColumn serial
  have unknown : ¬(Target.sequelize.types.map smallSerialColumn.type).known = true :=
    fun mapped => (known.mp mapped).1 small
  have text : Target.sequelize.types.fallback.name = "DataTypes.STRING" := rfl
  rw [← text]
  exact ⟨counts, mt (strict rfl).mp unknown, (lenient rfl).mpr (Bool.eq_false_iff.mpr unknown)⟩

end Lowering

end OrmCode
