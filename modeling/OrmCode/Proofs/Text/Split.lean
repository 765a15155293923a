import OrmCode.Text.Blank

/-!
# Pieces between separators

Pieces that hold no separator are found again when a separator joins them.
-/

namespace OrmCode

namespace Text

/-- A separator ends one list of pieces and starts another. -/
theorem splitCharacters_append_cons {separates : Char → Bool} {separator : Char}
    (separator_separates : separates separator = true) (before after : List Char) :
    splitCharacters separates (before ++ separator :: after) =
      splitCharacters separates before ++ splitCharacters separates after := by
  induction before with
  | nil => simp [splitCharacters, separator_separates]
  | cons character before induction =>
      have something := splitCharacters_ne_nil separates before
      rw [List.cons_append, splitCharacters, splitCharacters, induction]
      cases pieces : splitCharacters separates before with
      | nil => exact absurd pieces something
      | cons first others => split <;> rfl

/-- Up to its first separator, a list of characters is one piece. -/
theorem splitCharacters_append {separates : Char → Bool} {piece : List Char}
    (kept : ∀ character ∈ piece, separates character = false) {separator : Char}
    (separator_separates : separates separator = true) (rest : List Char) :
    splitCharacters separates (piece ++ separator :: rest) =
      piece :: splitCharacters separates rest := by
  rw [splitCharacters_append_cons separator_separates, splitCharacters_of_none kept,
    List.singleton_append]

theorem splitCharacters_intercalate {separates : Char → Bool} {separator : Char}
    (separator_separates : separates separator = true) {pieces : List (List Char)}
    (something : pieces ≠ [])
    (kept : ∀ piece ∈ pieces, ∀ character ∈ piece, separates character = false) :
    splitCharacters separates ([separator].intercalate pieces) = pieces := by
  induction pieces with
  | nil => exact absurd rfl something
  | cons first pieces induction =>
      obtain ⟨here, later⟩ := List.forall_mem_cons.mp kept
      cases pieces with
      | nil =>
          rw [List.intercalate_singleton]
          exact splitCharacters_of_none here
      | cons second pieces =>
          have rest_split := induction (List.cons_ne_nil second pieces) later
          rw [List.intercalate_cons_cons, List.append_assoc, List.singleton_append,
            splitCharacters_append here separator_separates, rest_split]

theorem split_intercalate {separates : Char → Bool} {separator : Char}
    (separator_separates : separates separator = true) {pieces : List String}
    (something : pieces ≠ [])
    (kept : ∀ piece ∈ pieces, ∀ character ∈ piece.toList, separates character = false) :
    split separates ((String.singleton separator).intercalate pieces) = pieces := by
  have characters : splitCharacters separates
      ([separator].intercalate (pieces.map String.toList)) = pieces.map String.toList := by
    apply splitCharacters_intercalate separator_separates (by simpa using something)
    intro piece member
    obtain ⟨text, listed, rfl⟩ := List.mem_map.mp member
    exact kept text listed
  rw [split, String.toList_intercalate, String.toList_singleton, characters, List.map_map]
  simp

end Text

end OrmCode
