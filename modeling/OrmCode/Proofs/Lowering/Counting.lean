import Mathlib.Data.List.Basic
import OrmCode.Lowering.Table
import OrmCode.Proofs.ColumnType.Span
import OrmCode.Proofs.Text.LetterCase

/-!
# What makes columns count up

A column counts up if the name of its type is one of the three serial ones, or if tokens that
only one dialect knows spell AUTOINCREMENT.
-/

namespace OrmCode

namespace Sql

/-- Tokens that spell AUTOINCREMENT one behind the other, in any letter case and with underscores
anywhere. -/
def SpellAutoIncrement (tokens : List Token) : Prop :=
  (tokens.flatMap fun token => token.write.toList.filter (· != '_')).map Char.toLower =
    "autoincrement".toList

instance (tokens : List Token) : Decidable (SpellAutoIncrement tokens) :=
  inferInstanceAs (Decidable (_ = _))

/-- A type whose name, which stands before its arguments and between blanks, is SERIAL, BIGSERIAL
or SMALLSERIAL in any letter case. -/
def IsSerialType (type : String) : Prop :=
  ∃ name arguments, type = name ++ arguments ∧ '(' ∉ name.toList ∧
    (arguments = "" ∨ ∃ rest, arguments = "(" ++ rest) ∧
    Text.lower (Text.trim name) ∈ ["serial", "bigserial", "smallserial"]

end Sql

namespace Lowering

/-- The capitals of the name of a type, which stands before its arguments. -/
def serialName (type : String) : String :=
  Text.upper (Text.trim (String.ofList (type.toList.takeWhile (· != '('))))

theorem isSerial_iff (type : String) : isSerial type = true ↔ serialName type ∈ serialTypes :=
  List.contains_iff_mem

theorem serialName_of_opening {name : String} (first : '(' ∉ name.toList) (rest : String) :
    serialName (name ++ "(" ++ rest) = Text.upper (Text.trim name) := by
  have characters : (name ++ "(" ++ rest).toList = name.toList ++ '(' :: rest.toList := by
    simp
  rw [serialName, characters, ColumnType.takeWhile_ne_append_cons first, String.ofList_toList]

theorem serialName_of_bare {name : String} (bare : '(' ∉ name.toList) :
    serialName name = Text.upper (Text.trim name) := by
  rw [serialName, List.takeWhile_eq_self_iff.mpr (ColumnType.all_ne_of_not_mem bare),
    String.ofList_toList]

theorem upper_mem_serialTypes_iff (word : String) :
    Text.upper word ∈ serialTypes ↔ Text.lower word ∈ ["serial", "bigserial", "smallserial"] :=
  Text.upper_mem_iff (by decide) (by decide)

theorem isSerial_iff_isSerialType (type : String) :
    isSerial type = true ↔ Sql.IsSerialType type := by
  rw [isSerial_iff]
  constructor
  · intro serial
    obtain bare | ⟨before, after, split, first⟩ := ColumnType.first_or_none '(' type.toList
    · rw [serialName_of_bare bare, upper_mem_serialTypes_iff] at serial
      exact ⟨type, "", String.append_empty.symm, bare, .inl rfl, serial⟩
    · have written : type = String.ofList before ++ "(" ++ String.ofList after := by
        rw [← String.toList_inj, split]
        simp
      have outside : '(' ∉ (String.ofList before).toList := by
        rwa [String.toList_ofList]
      rw [written, serialName_of_opening outside, upper_mem_serialTypes_iff] at serial
      exact ⟨_, _, written.trans String.append_assoc, outside, .inr ⟨_, rfl⟩, serial⟩
  · rintro ⟨name, _, rfl, first, rfl | ⟨rest, rfl⟩, listed⟩
    · rwa [String.append_empty, serialName_of_bare first, upper_mem_serialTypes_iff]
    · rwa [← String.append_assoc, serialName_of_opening first, upper_mem_serialTypes_iff]

theorem countsUp_iff (tokens : List Sql.Token) :
    countsUp tokens = true ↔ Sql.SpellAutoIncrement tokens := by
  have letters : (Text.upper (String.join (tokens.map Sql.Token.write))).toList.filter (· != '_') =
      (tokens.flatMap fun token => token.write.toList.filter (· != '_')).map Char.toUpper := by
    rw [Text.upper_toList, List.filter_map, String.toList_join, List.flatMap_map,
      List.filter_flatMap]
    refine congrArg (List.map Char.toUpper) (List.flatMap_congr fun token _ => ?_)
    exact List.filter_congr fun character _ => Text.toUpper_bne_underscore character
  have capital : Text.upper "autoincrement" = "AUTOINCREMENT" := by decide
  have small : Text.lower "autoincrement" = "autoincrement" := by decide
  rw [countsUp, beq_iff_eq, letters, Sql.SpellAutoIncrement]
  generalize tokens.flatMap (fun token => token.write.toList.filter (· != '_')) = kept
  have same := @Text.sameIgnoringCase_iff_upper (String.ofList kept) "autoincrement"
  rw [Text.sameIgnoringCase_iff, capital, small, Text.upper, Text.lower, String.toList_ofList]
    at same
  rw [← same, ← String.toList_inj, String.toList_ofList]

end Lowering

end OrmCode
