import Mathlib.Data.List.Basic
import OrmCode.Proofs.Text.LetterCase
import OrmCode.Proofs.Text.Words

/-!
# Words joined by single blanks

A text is taken apart into its words, and words are found again when single blanks join
them.  In small letters a text has the same words in small letters.
-/

namespace OrmCode

namespace Text

/-- One or more characters without a blank among them. -/
structure IsWordPiece (piece : List Char) : Prop where
  something : piece ≠ []
  visible : ∀ character ∈ piece, isBlank character = false

theorem wordPieces_of_isWordPiece {piece : List Char} (word : IsWordPiece piece) :
    wordPieces piece = [piece] := by
  rw [wordPieces, splitCharacters_of_none word.visible]
  exact List.filter_cons_of_pos (by simp [word.something])

theorem wordPieces_intercalate {pieces : List (List Char)}
    (each : ∀ piece ∈ pieces, IsWordPiece piece) :
    wordPieces ([' '].intercalate pieces) = pieces := by
  induction pieces with
  | nil => rfl
  | cons first pieces induction =>
      obtain ⟨here, later⟩ := List.forall_mem_cons.mp each
      cases pieces with
      | nil => rw [List.intercalate_singleton, wordPieces_of_isWordPiece here]
      | cons second pieces =>
          rw [List.intercalate_cons_cons, List.append_assoc, List.singleton_append,
            wordPieces_append_cons (by decide), wordPieces_of_isWordPiece here, induction later,
            List.singleton_append]

theorem not_separates_of_mem_splitCharacters {separates : Char → Bool}
    {characters piece : List Char} (member : piece ∈ splitCharacters separates characters) :
    ∀ character ∈ piece, separates character = false := by
  induction characters generalizing piece with
  | nil => simp_all [splitCharacters]
  | cons first characters induction =>
      rw [splitCharacters] at member
      split at member
      · rcases List.mem_cons.mp member with rfl | member
        · exact List.forall_mem_nil _
        · exact induction member
      · next kept =>
          rw [Bool.not_eq_true] at kept
          split at member
          · next nothing => exact absurd nothing (splitCharacters_ne_nil _ _)
          · next piece pieces split =>
              rw [split] at induction
              rcases List.mem_cons.mp member with rfl | member
              · exact List.forall_mem_cons.mpr ⟨kept, induction List.mem_cons_self⟩
              · exact induction (List.mem_cons_of_mem _ member)

theorem isWordPiece_of_mem {characters piece : List Char}
    (member : piece ∈ wordPieces characters) : IsWordPiece piece := by
  obtain ⟨split, something⟩ := List.mem_filter.mp member
  exact ⟨by simpa using something, not_separates_of_mem_splitCharacters split⟩

theorem splitCharacters_map {separates : Char → Bool} {change : Char → Char}
    (kept : ∀ character, separates (change character) = separates character)
    (characters : List Char) :
    splitCharacters separates (characters.map change) =
      (splitCharacters separates characters).map (List.map change) := by
  induction characters with
  | nil => rfl
  | cons first characters induction =>
      rw [List.map_cons, splitCharacters, splitCharacters, kept, induction]
      split
      · rfl
      · cases splitCharacters separates characters <;> rfl

theorem wordPieces_map_toLower (characters : List Char) :
    wordPieces (characters.map Char.toLower) =
      (wordPieces characters).map (List.map Char.toLower) := by
  rw [wordPieces, splitCharacters_map isBlank_toLower, List.filter_map, wordPieces]
  exact congrArg _ (List.filter_congr fun piece _ => by simp)

theorem words_lower (text : String) : words (lower text) = (words text).map lower := by
  rw [words_eq, words_eq, lower_toList, wordPieces_map_toLower, List.map_map, List.map_map]
  exact List.map_congr_left fun piece _ => by simp [lower]

/-- The characters of the words of a text with single blanks between them. -/
theorem toList_intercalate_words (text : String) :
    (" ".intercalate (words text)).toList = [' '].intercalate (wordPieces text.toList) := by
  rw [String.toList_intercalate, words_eq, List.map_map]
  simp [Function.comp_def]

theorem words_intercalate_words (text : String) :
    words (" ".intercalate (words text)) = words text := by
  rw [words_eq, toList_intercalate_words, wordPieces_intercalate fun _ => isWordPiece_of_mem]
  rfl

section Ends

theorem dropWhile_isBlank_append {blanks characters : List Char}
    (blank : ∀ character ∈ blanks, isBlank character = true)
    (starts : ∀ character ∈ characters.head?, isBlank character = false) :
    (blanks ++ characters).dropWhile isBlank = characters := by
  rw [List.dropWhile_append_of_pos blank]
  cases characters with
  | nil => rfl
  | cons first rest => exact List.dropWhile_cons_of_neg (by simp [starts first rfl])

/-- What starts and ends with no blank is what is left between blanks. -/
theorem trimmedCharacters_padded {before characters after : List Char}
    (blankBefore : ∀ character ∈ before, isBlank character = true)
    (blankAfter : ∀ character ∈ after, isBlank character = true)
    (starts : ∀ character ∈ characters.head?, isBlank character = false)
    (ends : ∀ character ∈ characters.getLast?, isBlank character = false) :
    trimmedCharacters (before ++ characters ++ after) = characters := by
  rw [trimmedCharacters, List.append_assoc]
  cases characters with
  | nil =>
      have allBlank : (before ++ ([] ++ after)).dropWhile isBlank = [] :=
        List.dropWhile_eq_nil_iff.mpr (List.forall_mem_append.mpr ⟨blankBefore, blankAfter⟩)
      rw [allBlank]
      rfl
  | cons first rest =>
      have kept : (before ++ (first :: rest ++ after)).dropWhile isBlank = _ :=
        dropWhile_isBlank_append blankBefore starts
      rw [kept, List.reverse_append, dropWhile_isBlank_append, List.reverse_reverse]
      · simpa using blankAfter
      · rwa [List.head?_reverse]

theorem exists_intercalate_cons (separator first : List Char) (pieces : List (List Char)) :
    ∃ rest, separator.intercalate (first :: pieces) = first ++ rest := by
  cases pieces with
  | nil => exact ⟨[], by rw [List.intercalate_singleton, List.append_nil]⟩
  | cons second pieces => exact ⟨_, by rw [List.intercalate_cons_cons, List.append_assoc]⟩

variable {pieces : List (List Char)} (each : ∀ piece ∈ pieces, IsWordPiece piece)

include each

theorem head?_intercalate_words :
    ∀ character ∈ ([' '].intercalate pieces).head?, isBlank character = false := by
  cases pieces with
  | nil => exact nofun
  | cons first pieces =>
      obtain ⟨something, visible⟩ := each first List.mem_cons_self
      obtain ⟨rest, split⟩ := exists_intercalate_cons [' '] first pieces
      rw [split, List.head?_append_of_ne_nil _ something]
      exact fun character starts => visible character (List.mem_of_head? starts)

theorem getLast?_intercalate_words :
    ∀ character ∈ ([' '].intercalate pieces).getLast?, isBlank character = false := by
  induction pieces with
  | nil => exact nofun
  | cons first pieces induction =>
      obtain ⟨here, later⟩ := List.forall_mem_cons.mp each
      cases pieces with
      | nil =>
          rw [List.intercalate_singleton]
          exact fun character last => here.visible character (List.mem_of_getLast? last)
      | cons second pieces =>
          obtain ⟨rest, split⟩ := exists_intercalate_cons [' '] second pieces
          have something := (later second List.mem_cons_self).something
          rw [List.intercalate_cons_cons, List.getLast?_append_of_ne_nil]
          · exact induction later
          · rw [split]
            exact List.append_ne_nil_of_left_ne_nil something rest

end Ends

/-- There are no blanks around words with single blanks between them. -/
theorem trim_intercalate_words (text : String) :
    trim (" ".intercalate (words text)) = " ".intercalate (words text) := by
  have each : ∀ piece ∈ wordPieces text.toList, IsWordPiece piece := fun _ => isWordPiece_of_mem
  have kept : trimmedCharacters ([] ++ [' '].intercalate (wordPieces text.toList) ++ []) = _ :=
    trimmedCharacters_padded nofun nofun (head?_intercalate_words each)
      (getLast?_intercalate_words each)
  rw [List.nil_append, List.append_nil, ← toList_intercalate_words] at kept
  rw [trim, kept, String.ofList_toList]

theorem words_of_mem_words {text word : String} (member : word ∈ words text) :
    words word = [word] := by
  rw [words_eq] at member
  obtain ⟨piece, listed, rfl⟩ := List.mem_map.mp member
  rw [words_eq, String.toList_ofList, wordPieces_of_isWordPiece (isWordPiece_of_mem listed)]
  rfl

theorem trim_of_mem_words {text word : String} (member : word ∈ words text) :
    trim word = word := by
  have trimmed := trim_intercalate_words word
  rwa [words_of_mem_words member, String.intercalate_singleton] at trimmed

theorem lower_of_mem_words {text word : String} (member : word ∈ words (lower text)) :
    lower word = word := by
  rw [words_lower] at member
  obtain ⟨original, -, rfl⟩ := List.mem_map.mp member
  exact lower_lower original

end Text

end OrmCode
