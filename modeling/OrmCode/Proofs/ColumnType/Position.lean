import OrmCode.Proofs.ColumnType.Span
import OrmCode.Proofs.Text.Bytes

/-!
# Column types cut at positions

The text of a type is cut before and after its parentheses, at positions that count bytes.
Both of them take one byte, so that every cut is between two characters.
-/

namespace OrmCode

namespace ColumnType

open Shell (byteCount slice?)

/-- The position of the first of some characters. -/
def firstPosition? (wanted : Char) (characters : List Char) : Option Nat :=
  if wanted ∈ characters then some (byteCount (characters.takeWhile (· != wanted))) else none

/-- The position of the last of some characters. -/
def lastPosition? (wanted : Char) (characters : List Char) : Option Nat :=
  if wanted ∈ characters then
    some (byteCount (characters.reverse.dropWhile (· != wanted)).tail.reverse)
  else
    none

/-- A column type taken apart at the positions of its parentheses, unless a cut is at no
position between characters. -/
def ofPositions? (written : String) : Option ColumnType :=
  match firstPosition? '(' written.toList, lastPosition? ')' written.toList with
  | some opening, some closing =>
    if opening < closing then do
      let between ← slice? (opening + 1) closing written.toList
      let before ← slice? 0 opening written.toList
      let after ← slice? (closing + 1) (byteCount written.toList) written.toList
      return ⟨normalizedName (String.ofList (before ++ ' ' :: after)), numericArguments between⟩
    else
      some ⟨normalizedName written, []⟩
  | _, _ => some ⟨normalizedName written, []⟩

theorem firstPosition?_append_cons {wanted : Char} {before : List Char} (apart : wanted ∉ before)
    (after : List Char) :
    firstPosition? wanted (before ++ wanted :: after) = some (byteCount before) := by
  rw [firstPosition?, if_pos (by simp), takeWhile_ne_append_cons apart]

theorem lastPosition?_append_cons {wanted : Char} {after : List Char} (apart : wanted ∉ after)
    (before : List Char) :
    lastPosition? wanted (before ++ wanted :: after) = some (byteCount before) := by
  have reversed : (before ++ wanted :: after).reverse =
      after.reverse ++ wanted :: before.reverse := by
    simp
  rw [lastPosition?, if_pos (by simp), reversed,
    dropWhile_ne_append_cons (mt List.mem_reverse.mp apart), List.tail_cons, List.reverse_reverse]

/-- The three parts of a type with arguments, each between its positions. -/
theorem slices_of_closed (before between after : List Char) :
    slice? 0 (byteCount before) (before ++ '(' :: (between ++ ')' :: after)) = some before ∧
      slice? (byteCount before + 1) (byteCount (before ++ '(' :: between))
        (before ++ '(' :: (between ++ ')' :: after)) = some between ∧
      slice? (byteCount (before ++ '(' :: between) + 1)
        (byteCount (before ++ '(' :: (between ++ ')' :: after)))
        (before ++ '(' :: (between ++ ')' :: after)) = some after := by
  -- A slice behind a parenthesis starts one byte later.
  have opening : '('.utf8Size = 1 := rfl
  have closing : ')'.utf8Size = 1 := rfl
  refine ⟨?_, ?_, ?_⟩
  · simpa using Shell.slice?_byteCount [] before ('(' :: (between ++ ')' :: after))
  · simpa [opening, Nat.add_assoc] using
      Shell.slice?_byteCount (before ++ ['(']) between (')' :: after)
  · simpa [opening, closing, Nat.add_assoc] using
      Shell.slice?_byteCount (before ++ '(' :: (between ++ [')'])) after []

theorem ofPositions?_of_closed {before after : String} (first : '(' ∉ before.toList)
    (last : ')' ∉ after.toList) (between : String) :
    ofPositions? (before ++ "(" ++ between ++ ")" ++ after) =
      some (ofText (before ++ "(" ++ between ++ ")" ++ after)) := by
  have characters : (before ++ "(" ++ between ++ ")" ++ after).toList =
      before.toList ++ '(' :: (between.toList ++ ')' :: after.toList) := by
    simp
  have closing := lastPosition?_append_cons last (before.toList ++ '(' :: between.toList)
  rw [List.append_assoc, List.cons_append] at closing
  have ordered : byteCount before.toList < byteCount (before.toList ++ '(' :: between.toList) := by
    have size := '('.utf8Size_pos
    rw [Shell.byteCount_append, Shell.byteCount_cons]
    omega
  obtain ⟨cutBefore, cutBetween, cutAfter⟩ :=
    slices_of_closed before.toList between.toList after.toList
  rw [ofPositions?, ofText, characters, firstPosition?_append_cons first, closing,
    span?_of_closed first last]
  simp only [if_pos ordered, cutBefore, cutBetween, cutAfter]
  rfl

/-- A closing parenthesis before the first opening one is at a lower position. -/
theorem ofPositions?_of_unclosed {before rest : String} (first : '(' ∉ before.toList)
    (unclosed : ')' ∉ rest.toList) :
    ofPositions? (before ++ "(" ++ rest) = some (ofText (before ++ "(" ++ rest)) := by
  have characters : (before ++ "(" ++ rest).toList = before.toList ++ '(' :: rest.toList := by
    simp
  rw [ofText_of_unclosed first unclosed, ofPositions?, characters, firstPosition?_append_cons first]
  obtain none | ⟨earlier, later, split, apart⟩ := last_or_none ')' before.toList
  · have absent : ')' ∉ before.toList ++ '(' :: rest.toList := by
      simp [none, unclosed]
    rw [lastPosition?, if_neg absent]
  · have closing : lastPosition? ')' (before.toList ++ '(' :: rest.toList) =
        some (byteCount earlier) := by
      rw [split, List.append_assoc, List.cons_append]
      exact lastPosition?_append_cons (by simp [apart, unclosed]) earlier
    have ordered : ¬byteCount before.toList < byteCount earlier := by
      rw [split, Shell.byteCount_append]
      omega
    simp only [closing, if_neg ordered]

/-- A type is cut at positions between its characters only, whatever it is written as. -/
theorem ofPositions?_eq (written : String) : ofPositions? written = some (ofText written) := by
  obtain ⟨outside, isOutside⟩ := exists_isOutside written
  cases isOutside with
  | closed first last => exact ofPositions?_of_closed first last _
  | unclosed first unclosed => exact ofPositions?_of_unclosed first unclosed
  | bare bare => rw [ofText_of_bare bare, ofPositions?, firstPosition?, if_neg bare]

end ColumnType

end OrmCode
