import OrmCode.Proofs.Text.FirstWord

/-!
# Words with blanks between them

A text is its words in order with blanks around them and between every two.  Which blanks
these are, and how many, makes no difference to the words.
-/

namespace OrmCode

namespace Text

/-- A text that consists of some words in order, with any blanks around them and at least one
between every two. -/
inductive Spaced : List String → String → Prop
  | nothing {blanks : String} (blank : allBlank blanks = true) : Spaced [] blanks
  | word {blanks word rest : String} {others : List String} (blank : allBlank blanks = true)
    (visible : IsWordPiece word.toList) (ends : StartsBlank rest) (later : Spaced others rest) :
    Spaced (word :: others) (blanks ++ word ++ rest)

theorem words_of_allBlank {text : String} (blank : allBlank text = true) : words text = [] := by
  have nothing := words_of_allBlank_append blank ""
  rwa [String.append_empty] at nothing

theorem Spaced.words_eq {written : List String} {text : String} (spaced : Spaced written text) :
    words text = written := by
  induction spaced with
  | nothing blank => exact words_of_allBlank blank
  | word blank visible ends later induction =>
      rw [words_first_word blank (isWord_iff.mpr visible) ends, induction]

theorem spaced_words {written : List String} {text : String} (same : words text = written) :
    Spaced written text := by
  induction written generalizing text with
  | nil =>
      obtain blank | ⟨blanks, word, rest, blank, isWord, ends, rfl⟩ :=
        allBlank_or_exists_first_word text
      · exact .nothing blank
      · rw [words_first_word blank isWord ends] at same
        cases same
  | cons first others induction =>
      obtain blank | ⟨blanks, word, rest, blank, isWord, ends, rfl⟩ :=
        allBlank_or_exists_first_word text
      · rw [words_of_allBlank blank] at same
        cases same
      · rw [words_first_word blank isWord ends] at same
        obtain ⟨rfl, later⟩ := List.cons.inj same
        exact .word blank (isWord_iff.mp isWord) ends (induction later)

/-- A text consists of its words, and of no others. -/
theorem spaced_iff {written : List String} {text : String} :
    Spaced written text ↔ words text = written :=
  ⟨Spaced.words_eq, spaced_words⟩

end Text

end OrmCode
