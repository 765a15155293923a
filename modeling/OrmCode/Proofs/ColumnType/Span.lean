import Mathlib.Data.List.TakeWhile
import OrmCode.ColumnType

/-!
# Arguments and what stands around them

The arguments of a column type reach from its first opening to its last closing
parenthesis.  Its name is made of the two parts around them, and of the whole text where
no closing parenthesis follows an opening one.
-/

namespace OrmCode

namespace ColumnType

section Characters

variable {wanted : Char} {before : List Char} (apart : wanted ∉ before)

include apart

theorem all_ne_of_not_mem : ∀ character ∈ before, (character != wanted) = true := by
  intro character member
  exact bne_iff_ne.mpr (ne_of_mem_of_not_mem member apart)

theorem takeWhile_ne_append_cons (after : List Char) :
    (before ++ wanted :: after).takeWhile (· != wanted) = before := by
  rw [List.takeWhile_append_of_pos (all_ne_of_not_mem apart),
    List.takeWhile_cons_of_neg (by simp), List.append_nil]

theorem dropWhile_ne_append_cons (after : List Char) :
    (before ++ wanted :: after).dropWhile (· != wanted) = wanted :: after := by
  rw [List.dropWhile_append_of_pos (all_ne_of_not_mem apart),
    List.dropWhile_cons_of_neg (by simp)]

theorem dropWhile_ne_of_not_mem : before.dropWhile (· != wanted) = [] :=
  List.dropWhile_eq_nil_iff.mpr (all_ne_of_not_mem apart)

end Characters

/-- The first of some characters in a list, or none. -/
theorem first_or_none (wanted : Char) (characters : List Char) :
    wanted ∉ characters ∨
      ∃ before after, characters = before ++ wanted :: after ∧ wanted ∉ before := by
  by_cases member : wanted ∈ characters
  · obtain ⟨before, after, split, apart⟩ := List.eq_append_cons_of_mem member
    exact .inr ⟨before, after, split, apart⟩
  · exact .inl member

/-- The last of some characters in a list, or none. -/
theorem last_or_none (wanted : Char) (characters : List Char) :
    wanted ∉ characters ∨
      ∃ before after, characters = before ++ wanted :: after ∧ wanted ∉ after := by
  obtain none | ⟨after, before, split, apart⟩ := first_or_none wanted characters.reverse
  · exact .inl (mt List.mem_reverse.mpr none)
  · refine .inr ⟨before.reverse, after.reverse, ?_, mt List.mem_reverse.mp apart⟩
    rw [← List.reverse_inj, split]
    simp

theorem span?_of_closed {before after : List Char} (first : '(' ∉ before) (last : ')' ∉ after)
    (between : List Char) :
    span? (before ++ '(' :: (between ++ ')' :: after)) = some (before, between, after) := by
  have reversed : (between ++ ')' :: after).reverse = after.reverse ++ ')' :: between.reverse := by
    simp
  have last' := mt List.mem_reverse.mp last
  rw [span?, takeWhile_ne_append_cons first, dropWhile_ne_append_cons first]
  simp only [reversed, takeWhile_ne_append_cons last', dropWhile_ne_append_cons last',
    List.reverse_reverse]

theorem span?_of_unclosed {before rest : List Char} (first : '(' ∉ before) (unclosed : ')' ∉ rest) :
    span? (before ++ '(' :: rest) = none := by
  rw [span?, dropWhile_ne_append_cons first]
  simp only [dropWhile_ne_of_not_mem (mt List.mem_reverse.mp unclosed)]

theorem span?_of_bare {written : List Char} (bare : '(' ∉ written) : span? written = none := by
  rw [span?, dropWhile_ne_of_not_mem bare]

/-- The text of a type outside its arguments: the parts before the first opening and after
the last closing parenthesis with a blank between them, or else the whole text. -/
inductive IsOutside : String → String → Prop
  | closed {before between after : String} (first : '(' ∉ before.toList)
      (last : ')' ∉ after.toList) :
    IsOutside (before ++ "(" ++ between ++ ")" ++ after) (before ++ " " ++ after)
  | unclosed {before rest : String} (first : '(' ∉ before.toList) (unclosed : ')' ∉ rest.toList) :
    IsOutside (before ++ "(" ++ rest) (before ++ "(" ++ rest)
  | bare {written : String} (bare : '(' ∉ written.toList) : IsOutside written written

theorem exists_isOutside (written : String) : ∃ outside, IsOutside written outside := by
  obtain bare | ⟨before, rest, split, first⟩ := first_or_none '(' written.toList
  · exact ⟨written, .bare bare⟩
  obtain unclosed | ⟨between, after, rfl, last⟩ := last_or_none ')' rest
  · obtain rfl : written = String.ofList before ++ "(" ++ String.ofList rest := by
      rw [← String.toList_inj, split]
      simp
    exact ⟨_, .unclosed (by simpa using first) (by simpa using unclosed)⟩
  · obtain rfl : written = String.ofList before ++ "(" ++ String.ofList between ++ ")" ++
        String.ofList after := by
      rw [← String.toList_inj, split]
      simp
    exact ⟨_, .closed (by simpa using first) (by simpa using last)⟩

/-- A type with arguments between parentheses. -/
theorem ofText_of_closed {before after : String} (first : '(' ∉ before.toList)
    (last : ')' ∉ after.toList) (between : String) :
    ofText (before ++ "(" ++ between ++ ")" ++ after) =
      ⟨normalizedName (before ++ " " ++ after), numericArguments between.toList⟩ := by
  have characters : (before ++ "(" ++ between ++ ")" ++ after).toList =
      before.toList ++ '(' :: (between.toList ++ ')' :: after.toList) := by
    simp
  have around : String.ofList (before.toList ++ ' ' :: after.toList) = before ++ " " ++ after := by
    rw [← String.toList_inj]
    simp
  rw [ofText, characters, span?_of_closed first last]
  simp only [around]

/-- A type whose first opening parenthesis is not closed behind it has no arguments. -/
theorem ofText_of_unclosed {before rest : String} (first : '(' ∉ before.toList)
    (unclosed : ')' ∉ rest.toList) :
    ofText (before ++ "(" ++ rest) = ⟨normalizedName (before ++ "(" ++ rest), []⟩ := by
  have characters : (before ++ "(" ++ rest).toList = before.toList ++ '(' :: rest.toList := by
    simp
  rw [ofText, characters, span?_of_unclosed first unclosed]

theorem ofText_of_bare {written : String} (bare : '(' ∉ written.toList) :
    ofText written = ⟨normalizedName written, []⟩ := by
  rw [ofText, span?_of_bare bare]

theorem name_of_isOutside {written outside : String} (isOutside : IsOutside written outside) :
    (ofText written).name = normalizedName outside := by
  cases isOutside with
  | closed first last => rw [ofText_of_closed first last]
  | unclosed first unclosed => rw [ofText_of_unclosed first unclosed]
  | bare bare => rw [ofText_of_bare bare]

end ColumnType

end OrmCode
