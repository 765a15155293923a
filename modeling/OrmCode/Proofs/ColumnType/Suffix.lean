import OrmCode.Proofs.ColumnType.Argument
import OrmCode.Proofs.ColumnType.Name

/-!
# Types with and without their arguments

The arguments of a type do not count when it is looked up, unless a bracket follows them.
Behind arguments the bracket starts a word of its own, but next to the name it belongs to
the first word, which no table knows then.
-/

namespace OrmCode

/-- A bracket stands next to a name of one word that the table knows. -/
def TypeTable.Glues (table : TypeTable) (name suffix : String) : Prop :=
  ∃ blanks word rest, Text.allBlank blanks = true ∧ Text.IsWord word ∧
    Text.lower word ∈ table.names ∧ name = blanks ++ word ∧ suffix = "[" ++ rest

/-- The word next to the bracket is the only one of the name. -/
theorem TypeTable.glues_iff (table : TypeTable) {blanks word : String}
    (blank : Text.allBlank blanks = true) (isWord : Text.IsWord word) (rest : String) :
    table.Glues (blanks ++ word) ("[" ++ rest) ↔ Text.lower word ∈ table.names := by
  constructor
  · rintro ⟨otherBlanks, other, -, otherBlank, isOther, known, same, -⟩
    have words := Text.words_of_allBlank_append blank word
    rw [same, Text.words_of_allBlank_append otherBlank, isWord, isOther] at words
    exact List.singleton_inj.mp words ▸ known
  · exact fun known => ⟨blanks, word, rest, blank, isWord, known, rfl, rfl⟩

namespace Target

variable (target : Target)

section Bracket

variable (rest : String)

theorem bracket_mem_append (before : String) : '[' ∈ (before ++ ("[" ++ rest)).toList := by
  simp

/-- Behind a blank a bracket leaves the word before it as it is. -/
theorem find?_word_bracket {blanks word : String} (blank : Text.allBlank blanks = true)
    (isWord : Text.IsWord word) :
    target.types.find? (ColumnType.normalizedName (blanks ++ word ++ " " ++ ("[" ++ rest))) =
      target.types.entries.lookup (Text.lower word) := by
  have words : Text.words (blanks ++ word ++ " " ++ ("[" ++ rest)) =
      word :: Text.words ("[" ++ rest) := by
    rw [Text.words_append_space, Text.words_of_allBlank_append blank, isWord, List.singleton_append]
  rw [target.lacks_bracket.find? (bracket_mem_append rest _), words]
  rfl

/-- Behind a name that is no single word at its end a bracket may stand with a blank or
without. -/
theorem find?_append_bracket {name : String}
    (apart : ∀ blanks word, Text.allBlank blanks = true → Text.IsWord word → name ≠ blanks ++ word) :
    target.types.find? (ColumnType.normalizedName (name ++ " " ++ ("[" ++ rest))) =
      target.types.find? (ColumnType.normalizedName (name ++ ("[" ++ rest))) := by
  have heads : (Text.words (name ++ " " ++ ("[" ++ rest))).head? =
      (Text.words (name ++ ("[" ++ rest))).head? := by
    obtain blank | ⟨blanks, word, tail, blank, isWord, ends, rfl⟩ :=
      Text.allBlank_or_exists_first_word name
    · rw [String.append_assoc, Text.words_of_allBlank_append blank,
        Text.words_of_allBlank_append (by decide), Text.words_of_allBlank_append blank]
    · have something : tail ≠ "" := by
        rintro rfl
        exact apart blanks word blank isWord String.append_empty
      have first : ∀ after, (Text.words (blanks ++ word ++ tail ++ after)).head? = some word := by
        intro after
        rw [String.append_assoc, Text.words_first_word blank isWord (ends.append something after)]
        rfl
      have long := first (" " ++ ("[" ++ rest))
      rw [← String.append_assoc] at long
      rw [long, first]
  rw [target.lacks_bracket.find? (bracket_mem_append rest _),
    target.lacks_bracket.find? (bracket_mem_append rest _), heads]

end Bracket

/-- A name and what stands behind its arguments, as they are looked up with a blank between
them and without. -/
theorem find?_suffix {name suffix : String}
    (attached : suffix = "" ∨ ∃ rest, suffix = " " ++ rest ∨ suffix = "[" ++ rest) :
    (¬target.types.Glues name suffix ∧
        target.types.find? (ColumnType.normalizedName (name ++ " " ++ suffix)) =
          target.types.find? (ColumnType.normalizedName (name ++ suffix))) ∨
      (target.types.Glues name suffix ∧
        (target.types.find? (ColumnType.normalizedName (name ++ " " ++ suffix))).isSome = true ∧
        target.types.find? (ColumnType.normalizedName (name ++ suffix)) = none) := by
  obtain starts | ⟨rest, rfl⟩ : Text.StartsBlank suffix ∨ ∃ rest, suffix = "[" ++ rest := by
    obtain rfl | ⟨rest, rfl | rfl⟩ := attached
    · exact .inl nofun
    · exact .inl (Text.startsBlank_space rest)
    · exact .inr ⟨rest, rfl⟩
  · have same := Text.words_append_space_of_startsBlank starts name
    refine .inl ⟨?_, by rw [ColumnType.normalizedName, ColumnType.normalizedName, same]⟩
    rintro ⟨_, _, rest, -, -, -, -, rfl⟩
    exact absurd (starts '[' (by simp)) (by decide)
  -- With a bracket only the first word counts, and only where that ends the name does the
  -- bracket become a part of it.
  by_cases next : ∃ blanks word, Text.allBlank blanks = true ∧ Text.IsWord word ∧
      name = blanks ++ word
  · obtain ⟨blanks, word, blank, isWord, rfl⟩ := next
    have unknown : target.types.find?
        (ColumnType.normalizedName (blanks ++ word ++ ("[" ++ rest))) = none :=
      target.lacks_bracket.find?_word_append blank isWord rest
    rw [target.types.glues_iff blank isWord, target.find?_word_bracket rest blank isWord, unknown,
      ← TypeTable.isSome_lookup_iff]
    cases target.types.entries.lookup (Text.lower word) <;> simp
  · refine .inl ⟨?_, target.find?_append_bracket rest fun blanks word blank isWord same =>
      next ⟨blanks, word, blank, isWord, same⟩⟩
    rintro ⟨blanks, word, -, blank, isWord, -, same, -⟩
    exact next ⟨blanks, word, blank, isWord, same⟩

section Arguments

variable {name suffix written : String} {arguments : List String}
  (plain : ∀ character ∈ (name ++ suffix).toList, character ≠ '(' ∧ character ≠ ')')

include plain

theorem ofText_without_arguments :
    ColumnType.ofText (name ++ suffix) = ⟨ColumnType.normalizedName (name ++ suffix), []⟩ := by
  have bare : '(' ∉ (name ++ suffix).toList := fun member => (plain _ member).1 rfl
  exact ColumnType.ofText_of_bare bare

theorem ofText_with_arguments (lists : ColumnType.Lists written arguments) :
    ColumnType.ofText (name ++ "(" ++ written ++ ")" ++ suffix) =
      ⟨ColumnType.normalizedName (name ++ " " ++ suffix), arguments⟩ := by
  rw [String.toList_append, List.forall_mem_append] at plain
  exact ColumnType.ofText_of_lists (fun member => (plain.1 _ member).1 rfl)
    (fun member => (plain.2 _ member).2 rfl) lists

/-- The arguments of a type do not change whether it is known and what it becomes, and are
taken over if that is sized, unless a bracket behind them would stand next to a known name of
one word.  Such a type is known with its arguments and unknown without them. -/
theorem map_arguments_iff
    (attached : suffix = "" ∨ ∃ rest, suffix = " " ++ rest ∨ suffix = "[" ++ rest)
    (lists : ColumnType.Lists written arguments) :
    ((target.types.map (name ++ "(" ++ written ++ ")" ++ suffix)).known =
          (target.types.map (name ++ suffix)).known ∧
        (target.types.counterpart (name ++ "(" ++ written ++ ")" ++ suffix)).name =
          (target.types.counterpart (name ++ suffix)).name ↔
      ¬target.types.Glues name suffix) ∧
    (target.types.Glues name suffix →
      (target.types.map (name ++ "(" ++ written ++ ")" ++ suffix)).known = true ∧
        (target.types.map (name ++ suffix)).known = false) ∧
    (target.types.map (name ++ "(" ++ written ++ ")" ++ suffix)).rendered =
      (if (target.types.counterpart (name ++ "(" ++ written ++ ")" ++ suffix)).sized = true ∧
          arguments ≠ [] then
        (target.types.counterpart (name ++ "(" ++ written ++ ")" ++ suffix)).name ++
          "(" ++ ", ".intercalate arguments ++ ")"
      else (target.types.counterpart (name ++ "(" ++ written ++ ")" ++ suffix)).name) ∧
    (target.types.map (name ++ suffix)).rendered =
      (target.types.counterpart (name ++ suffix)).name := by
  have long := ofText_with_arguments plain lists
  have short := ofText_without_arguments plain
  rw [target.rendered_types, target.rendered_types, TypeTable.known_map, TypeTable.known_map,
    TypeTable.counterpart, TypeTable.counterpart, long, short]
  refine ⟨?_, ?_, TargetType.render_eq .., ?_⟩
  · obtain ⟨apart, same⟩ | ⟨glued, known, unknown⟩ := target.find?_suffix attached
    · rw [same]
      exact iff_of_true ⟨rfl, rfl⟩ apart
    · rw [known, unknown]
      exact iff_of_false (fun same => Bool.noConfusion same.1) (not_not.mpr glued)
  · intro glued
    obtain ⟨apart, -⟩ | ⟨-, known, unknown⟩ := target.find?_suffix attached
    · exact absurd glued apart
    · rw [known, unknown]
      exact ⟨rfl, rfl⟩
  · simp [TargetType.render]

end Arguments

/-- An array of texts of a length is known and an array of texts is not. -/
theorem map_textArray :
    ColumnType.Lists " 20" ["20"] ∧ sequelize.types.Glues "VarChar" "[]" ∧
      (sequelize.types.map ("VarChar" ++ "(" ++ " 20" ++ ")" ++ "[]")).known = true ∧
      (sequelize.types.map ("VarChar" ++ "[]")).known = false ∧
      (sequelize.types.map ("VarChar" ++ "(" ++ " 20" ++ ")" ++ "[]")).rendered =
        "DataTypes.STRING(20)" := by
  have lists : ColumnType.Lists " 20" ["20"] :=
    ⟨by decide, [" 20"], .cons ⟨" ", "", rfl, rfl, rfl⟩ .nil, rfl⟩
  have glued : sequelize.types.Glues "VarChar" "[]" :=
    ⟨"", "VarChar", "]", rfl, by decide, by decide, rfl, rfl⟩
  have plain : ∀ character ∈ ("VarChar" ++ "[]").toList, character ≠ '(' ∧ character ≠ ')' := by
    simp
  have counterpart : sequelize.types.counterpart ("VarChar" ++ "(" ++ " 20" ++ ")" ++ "[]") =
      ⟨"DataTypes.STRING", true⟩ := by
    decide +kernel
  obtain ⟨-, mapped, rendered, -⟩ :=
    sequelize.map_arguments_iff plain (.inr ⟨"]", .inr rfl⟩) lists
  rw [counterpart] at rendered
  exact ⟨lists, glued, (mapped glued).1, (mapped glued).2, rendered⟩

end Target

end OrmCode
