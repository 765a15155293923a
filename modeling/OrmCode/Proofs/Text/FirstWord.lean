import OrmCode.Proofs.Text.Normal

/-!
# The first word of a text

A text is blank, or its first word stands behind blanks and before another blank or the
end.  What follows a word without a blank between them belongs to the word.
-/

namespace OrmCode

namespace Text

variable {separates : Char → Bool}

/-- What stands before characters without a separator is part of their first piece. -/
theorem exists_splitCharacters_append {lead : List Char}
    (kept : ∀ character ∈ lead, separates character = false) (characters : List Char) :
    ∃ piece pieces, splitCharacters separates characters = piece :: pieces ∧
      splitCharacters separates (lead ++ characters) = (lead ++ piece) :: pieces := by
  induction lead with
  | nil =>
      obtain ⟨piece, pieces, split⟩ :=
        List.exists_cons_of_ne_nil (splitCharacters_ne_nil separates characters)
      exact ⟨piece, pieces, split, split⟩
  | cons first lead induction =>
      obtain ⟨here, later⟩ := List.forall_mem_cons.mp kept
      obtain ⟨piece, pieces, split, appended⟩ := induction later
      refine ⟨piece, pieces, split, ?_⟩
      rw [List.cons_append, splitCharacters, if_neg (by simp [here]), appended]
      rfl

theorem flatten_splitCharacters (characters : List Char) :
    (splitCharacters separates characters).flatten =
      characters.filter fun character => !separates character := by
  induction characters with
  | nil => rfl
  | cons first characters induction =>
      rw [splitCharacters]
      split
      · next separated => simp [separated, induction]
      · next kept =>
          obtain ⟨piece, pieces, split⟩ :=
            List.exists_cons_of_ne_nil (splitCharacters_ne_nil separates characters)
          rw [split] at induction ⊢
          simpa [kept] using induction

/-- The characters of a text that are not blank are those of its words. -/
theorem exists_mem_words_iff {text : String} {character : Char} :
    (∃ word ∈ words text, character ∈ word.toList) ↔
      character ∈ text.toList ∧ isBlank character = false := by
  have kept : character ∈ (splitCharacters isBlank text.toList).flatten ↔
      character ∈ text.toList ∧ isBlank character = false := by
    rw [flatten_splitCharacters, List.mem_filter, Bool.not_eq_true']
  rw [← kept, List.mem_flatten]
  constructor
  · rintro ⟨word, listed, inside⟩
    obtain ⟨piece, member, rfl⟩ := List.mem_map.mp listed
    exact ⟨piece, List.mem_of_mem_filter member, by rwa [String.toList_ofList] at inside⟩
  · rintro ⟨piece, member, inside⟩
    have something : (!piece.isEmpty) = true := by
      simpa using List.ne_nil_of_mem inside
    refine ⟨String.ofList piece, List.mem_map_of_mem (List.mem_filter.mpr ⟨member, something⟩), ?_⟩
    rwa [String.toList_ofList]

/-- A text that is one word. -/
def IsWord (text : String) : Prop :=
  words text = [text]

instance (text : String) : Decidable (IsWord text) :=
  inferInstanceAs (Decidable (_ = _))

theorem isWord_iff {text : String} : IsWord text ↔ IsWordPiece text.toList := by
  constructor
  · intro word
    rw [IsWord, words_eq] at word
    obtain ⟨piece, single, rfl⟩ := List.map_eq_singleton_iff.mp word
    rw [String.toList_ofList]
    exact isWordPiece_of_mem (single ▸ List.mem_cons_self)
  · intro word
    rw [IsWord, words_eq, wordPieces_of_isWordPiece word, List.map_singleton, String.ofList_toList]

/-- A text is one word if it is one in small letters. -/
theorem isWord_of_lower {text : String} (word : IsWord (lower text)) : IsWord text := by
  obtain ⟨something, visible⟩ := isWord_iff.mp word
  rw [lower_toList] at something visible
  refine isWord_iff.mpr ⟨fun nothing => something (by rw [nothing]; rfl), fun character member => ?_⟩
  rw [← isBlank_toLower]
  exact visible _ (List.mem_map_of_mem member)

theorem words_of_allBlank_append {blanks : String} (blank : allBlank blanks = true)
    (text : String) : words (blanks ++ text) = words text := by
  rw [words_eq, words_eq, String.toList_append,
    wordPieces_append_of_blank (List.all_eq_true.mp blank)]

theorem words_append_blank {blanks : String} (blank : allBlank blanks = true) (text : String) :
    words (text ++ blanks) = words text := by
  rw [words_eq, words_eq, String.toList_append,
    wordPieces_append_blank (List.all_eq_true.mp blank)]

/-- No blank ends a text exactly if none stands behind its last word. -/
theorem getLast?_word_iff {word trailing : String} (isWord : IsWord word)
    (blank : allBlank trailing = true) (before : String) :
    (∀ last ∈ (before ++ word ++ trailing).toList.getLast?, isBlank last = false) ↔
      trailing = "" := by
  obtain ⟨something, visible⟩ := isWord_iff.mp isWord
  rw [String.toList_append]
  constructor
  · intro ends
    by_contra behind
    have nonempty := mt String.toList_eq_nil_iff.mp behind
    have isLast := List.getLast?_eq_some_getLast nonempty
    rw [List.getLast?_append_of_ne_nil _ nonempty, isLast] at ends
    have isBlank := List.all_eq_true.mp blank _ (List.getLast_mem nonempty)
    rw [ends _ rfl] at isBlank
    cases isBlank
  · rintro rfl last isLast
    rw [String.toList_empty, List.append_nil, String.toList_append,
      List.getLast?_append_of_ne_nil _ something] at isLast
    exact visible last (List.mem_of_getLast? isLast)

/-- A text that is empty or starts with a blank. -/
def StartsBlank (text : String) : Prop :=
  ∀ character ∈ text.toList.head?, isBlank character = true

theorem words_append_of_startsBlank {rest : String} (ends : StartsBlank rest) (text : String) :
    words (text ++ rest) = words text ++ words rest := by
  cases characters : rest.toList with
  | nil =>
      obtain rfl := String.toList_eq_nil_iff.mp characters
      rw [String.append_empty]
      exact (List.append_nil _).symm
  | cons blank others =>
      have separated : isBlank blank = true := ends blank (by rw [characters]; rfl)
      have behind := wordPieces_append_cons separated [] others
      rw [words_eq, words_eq rest, String.toList_append, characters,
        wordPieces_append_cons separated, List.map_append]
      exact congrArg _ (congrArg _ behind.symm)

theorem startsBlank_of_allBlank {text : String} (blank : allBlank text = true) :
    StartsBlank text :=
  fun character first => List.all_eq_true.mp blank character (List.mem_of_head? first)

theorem StartsBlank.append {rest : String} (ends : StartsBlank rest) (something : rest ≠ "")
    (after : String) : StartsBlank (rest ++ after) := by
  intro character first
  rw [String.toList_append, List.head?_append_of_ne_nil] at first
  · exact ends character first
  · exact mt String.toList_eq_nil_iff.mp something

theorem StartsBlank.of_allBlank_append {blanks after : String} (blank : allBlank blanks = true)
    (starts : StartsBlank after) : StartsBlank (blanks ++ after) := by
  by_cases nothing : blanks = ""
  · rwa [nothing, String.empty_append]
  · exact (startsBlank_of_allBlank blank).append nothing after

theorem words_first_word {blanks word rest : String} (blank : allBlank blanks = true)
    (isWord : IsWord word) (ends : StartsBlank rest) :
    words (blanks ++ word ++ rest) = word :: words rest := by
  rw [words_append_of_startsBlank ends, words_of_allBlank_append blank, isWord]
  rfl

theorem startsBlank_space (text : String) : StartsBlank (" " ++ text) := by
  intro character first
  rw [String.toList_append] at first
  obtain rfl : ' ' = character := Option.some.inj first
  rfl

theorem words_append_space (before after : String) :
    words (before ++ " " ++ after) = words before ++ words after := by
  have blank : words (" " ++ after) = words after := words_of_allBlank_append rfl after
  rw [String.append_assoc, words_append_of_startsBlank (startsBlank_space after), blank]

/-- A blank before a text that starts with one, or with nothing, changes no words. -/
theorem words_append_space_of_startsBlank {rest : String} (ends : StartsBlank rest)
    (text : String) : words (text ++ " " ++ rest) = words (text ++ rest) := by
  rw [words_append_space, words_append_of_startsBlank ends]

/-- What follows a word without a blank between them belongs to the first word. -/
theorem exists_words_append {word : String} (isWord : IsWord word) {character : Char}
    (visible : isBlank character = false) (rest : String) :
    ∃ first others, words (word ++ (String.singleton character ++ rest)) = first :: others ∧
      character ∈ first.toList := by
  have kept : ∀ other ∈ word.toList ++ [character], isBlank other = false :=
    List.forall_mem_append.mpr ⟨(isWord_iff.mp isWord).visible, by simpa using visible⟩
  obtain ⟨piece, pieces, -, split⟩ := exists_splitCharacters_append kept rest.toList
  have characters : (word ++ (String.singleton character ++ rest)).toList =
      word.toList ++ [character] ++ rest.toList := by
    simp
  rw [words_eq, wordPieces, characters, split, List.filter_cons_of_pos (by simp), List.map_cons]
  exact ⟨_, _, rfl, by simp⟩

/-- A text is blank, or its first word stands behind blanks and before another blank or the
end of the text. -/
theorem allBlank_or_exists_first_word (text : String) :
    allBlank text = true ∨
      ∃ blanks word rest, allBlank blanks = true ∧ IsWord word ∧ StartsBlank rest ∧
        text = blanks ++ word ++ rest := by
  let isVisible := fun character => !isBlank character
  cases visible : text.toList.dropWhile isBlank with
  | nil => exact .inl (List.all_eq_true.mpr (List.dropWhile_eq_nil_iff.mp visible))
  | cons first others =>
      have first_visible : isBlank first = false := by
        have starts := List.head?_dropWhile_not isBlank text.toList
        rwa [visible] at starts
      have split := List.takeWhile_append_dropWhile (p := isBlank) (l := text.toList)
      refine .inr ⟨String.ofList (text.toList.takeWhile isBlank),
        String.ofList ((first :: others).takeWhile isVisible),
        String.ofList ((first :: others).dropWhile isVisible), ?_, isWord_iff.mpr ⟨?_, ?_⟩, ?_, ?_⟩
      · rw [allBlank, String.toList_ofList]
        exact List.all_takeWhile
      · simp [isVisible, first_visible]
      · intro character member
        rw [String.toList_ofList] at member
        simpa [isVisible] using List.mem_takeWhile_imp member
      · intro character ends
        have starts := List.head?_dropWhile_not isVisible (first :: others)
        rw [String.toList_ofList] at ends
        rw [ends] at starts
        simpa [isVisible] using starts
      · rw [← String.toList_inj]
        simp [← visible, split]

end Text

end OrmCode
