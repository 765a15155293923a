import OrmCode.Proofs.Code.TypeTable
import OrmCode.Proofs.ColumnType.Span
import OrmCode.Proofs.Text.FirstWord

/-!
# Names of column types

The name of a type is made of its words in small letters with single blanks between them.
It is known if the whole name or its first word is in the table.
-/

namespace OrmCode

namespace ColumnType

theorem normalizedName_eq (name : String) :
    normalizedName name = " ".intercalate (Text.words (Text.lower name)) := by
  rw [Text.words_lower, ← Text.lower_intercalate, normalizedName]

theorem words_normalizedName (name : String) :
    Text.words (normalizedName name) = Text.words (Text.lower name) := by
  rw [normalizedName_eq, Text.words_intercalate_words]

@[simp] theorem trim_normalizedName (name : String) :
    Text.trim (normalizedName name) = normalizedName name := by
  rw [normalizedName_eq, Text.trim_intercalate_words]

@[simp] theorem lower_normalizedName (name : String) :
    Text.lower (normalizedName name) = normalizedName name :=
  Text.lower_lower _

/-- The characters of a name in small letters that are not blank are those of its words. -/
theorem mem_normalizedName_iff {name : String} {character : Char}
    (visible : Text.isBlank character = false) :
    character ∈ (normalizedName name).toList ↔ character ∈ (Text.lower name).toList := by
  have same := congrArg (fun words => ∃ word ∈ words, character ∈ String.toList word)
    (words_normalizedName name)
  simpa [Text.exists_mem_words_iff, visible] using same

end ColumnType

namespace TypeTable

variable (table : TypeTable)

theorem isSome_lookup_iff (name : String) :
    (table.entries.lookup name).isSome = true ↔ name ∈ table.names := by
  rw [names, List.lookup_isSome_iff, List.mem_map]
  simp only [beq_iff_eq, @eq_comm _ name]

theorem lookup_eq_none_iff (name : String) :
    table.entries.lookup name = none ↔ name ∉ table.names := by
  rw [← isSome_lookup_iff, Option.not_isSome_iff_eq_none]

theorem get?_normalizedName (name : String) :
    table.get? (ColumnType.normalizedName name) =
      table.entries.lookup (ColumnType.normalizedName name) := by
  rw [get?, ColumnType.trim_normalizedName, ColumnType.lower_normalizedName]

theorem get?_of_mem_words {name word : String} (member : word ∈ Text.words (Text.lower name)) :
    table.get? word = table.entries.lookup word := by
  rw [get?, Text.trim_of_mem_words member, Text.lower_of_mem_words member]

/-- The counterpart of a name is that of the whole name or else that of its first word. -/
theorem find?_normalizedName (name : String) :
    table.find? (ColumnType.normalizedName name) =
      (table.entries.lookup (ColumnType.normalizedName name)).or
        ((Text.words (Text.lower name)).head?.bind fun word => table.entries.lookup word) := by
  have first : (Text.words (Text.lower name)).head?.bind table.get? =
      (Text.words (Text.lower name)).head?.bind fun word => table.entries.lookup word :=
    Option.bind_congr fun word isFirst => table.get?_of_mem_words (List.mem_of_head? isFirst)
  rw [find?, get?_normalizedName, ColumnType.words_normalizedName, first, Option.or_eq_orElse]
  rfl

/-- A type is known if its name without arguments or the first word of it is in the table. -/
theorem known_map_of_isOutside {written outside : String}
    (isOutside : ColumnType.IsOutside written outside) :
    (table.map written).known = true ↔
      ColumnType.normalizedName outside ∈ table.names ∨
        ∃ word ∈ (Text.words (ColumnType.normalizedName outside)).head?, word ∈ table.names := by
  rw [known_map_iff, ColumnType.name_of_isOutside isOutside]
  refine or_congr ?_ (exists_congr fun word => and_congr_right fun isFirst => ?_)
  · rw [isSome_get?_iff, ColumnType.trim_normalizedName, ColumnType.lower_normalizedName]
  · rw [ColumnType.words_normalizedName] at isFirst
    have member := List.mem_of_head? isFirst
    rw [isSome_get?_iff, Text.trim_of_mem_words member, Text.lower_of_mem_words member]

/-- A character that is in no name of the table, is no blank and has no other small form. -/
structure Lacks (character : Char) : Prop where
  absent : ∀ name ∈ table.names, character ∉ name.toList
  visible : Text.isBlank character = false
  small : character.toLower = character

namespace Lacks

variable {table} {character : Char} (lacks : table.Lacks character)

include lacks

theorem lookup {name : String} (inside : character ∈ name.toList) :
    table.entries.lookup name = none := by
  rw [lookup_eq_none_iff]
  exact fun known => lacks.absent name known inside

theorem mem_lower {name : String} (inside : character ∈ name.toList) :
    character ∈ (Text.lower name).toList := by
  rw [Text.lower_toList]
  exact List.mem_map.mpr ⟨character, inside, lacks.small⟩

/-- Of a name with such a character only the first word may be known. -/
theorem find? {name : String} (inside : character ∈ name.toList) :
    table.find? (ColumnType.normalizedName name) =
      (Text.words name).head?.bind fun word => table.entries.lookup (Text.lower word) := by
  have kept := (ColumnType.mem_normalizedName_iff lacks.visible).mpr (lacks.mem_lower inside)
  rw [find?_normalizedName, lacks.lookup kept, Option.none_or, Text.words_lower, List.head?_map,
    Option.bind_map]
  rfl

/-- Next to a word such a character makes it a word that the table does not know. -/
theorem find?_word_append {blanks word : String} (blank : Text.allBlank blanks = true)
    (isWord : Text.IsWord word) (rest : String) :
    table.find?
      (ColumnType.normalizedName (blanks ++ word ++ (String.singleton character ++ rest))) =
        none := by
  obtain ⟨first, others, words, inside⟩ := Text.exists_words_append isWord lacks.visible rest
  rw [lacks.find? (by simp), String.append_assoc, Text.words_of_allBlank_append blank, words]
  exact lacks.lookup (lacks.mem_lower inside)

end Lacks

end TypeTable

theorem Target.lacks_parenthesis (target : Target) : target.types.Lacks '(' where
  absent := by
    rw [names_types]
    decide +kernel
  visible := by decide
  small := rfl

theorem Target.lacks_bracket (target : Target) : target.types.Lacks '[' where
  absent := by
    rw [names_types]
    decide +kernel
  visible := by decide
  small := rfl

end OrmCode
