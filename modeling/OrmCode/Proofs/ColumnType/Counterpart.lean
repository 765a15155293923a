import OrmCode.Proofs.ColumnType.Argument
import OrmCode.Proofs.ColumnType.Name
import OrmCode.Proofs.ColumnType.Position
import OrmCode.Proofs.Definition.Type

/-!
# What becomes of a column type

Whatever a column type is written as, it becomes a name of the target, which may be followed
by whole numbers in parentheses.  Each type of a table becomes its own counterpart, in any
letter case and with blanks around it.
-/

namespace OrmCode

/-- The name of a type in small letters with single blanks, whatever stands around it. -/
theorem ColumnType.normalizedName_padded {before after : String}
    (blankBefore : Text.allBlank before = true) (blankAfter : Text.allBlank after = true)
    (name : String) : normalizedName (before ++ name ++ after) = normalizedName name := by
  rw [normalizedName, Text.words_append_blank blankAfter, Text.words_of_allBlank_append blankBefore,
    normalizedName]

theorem TargetType.render_cases (type : TargetType) (arguments : List String) :
    type.render arguments = type.name ∨
      type.sized = true ∧ arguments ≠ [] ∧
        type.render arguments = type.name ++ "(" ++ ", ".intercalate arguments ++ ")" := by
  rw [render_eq]
  split
  · next taken => exact .inr ⟨taken.1, taken.2, rfl⟩
  · exact .inl rfl

namespace Target

variable (target : Target)

theorem rendered_cases (written : String) :
    (∃ type ∈ target.types.fallback :: target.types.entries.map Prod.snd,
        (target.types.map written).rendered = type.name) ∨
      ∃ entry ∈ target.types.entries, ∃ arguments, entry.2.sized = true ∧ arguments ≠ [] ∧
        (∀ argument ∈ arguments, ColumnType.isDigits argument = true) ∧
        (target.types.map written).rendered =
          entry.2.name ++ "(" ++ ", ".intercalate arguments ++ ")" := by
  have member := target.types.counterpart_mem written
  rw [target.rendered_types]
  obtain plain | ⟨sized, something, rendered⟩ :=
    (target.types.counterpart written).render_cases (ColumnType.ofText written).arguments
  · exact .inl ⟨_, member, plain⟩
  · have unsized : target.types.fallback.sized = false := by
      cases target <;> rfl
    obtain fallback | listed := List.mem_cons.mp member
    · rw [fallback, unsized] at sized
      cases sized
    · obtain ⟨entry, entered, same⟩ := List.mem_map.mp listed
      rw [← same] at sized rendered
      exact .inr ⟨entry, entered, _, sized, something,
        fun _ => ColumnType.isDigits_of_mem_arguments, same ▸ rendered⟩

/-- Every type of the table is found under its own name. -/
theorem lookup_of_mem {entry : String × TargetType} (member : entry ∈ target.types.entries) :
    target.types.entries.lookup entry.1 = some entry.2 := by
  have each : ∀ entry ∈ target.types.entries,
      target.types.entries.lookup entry.1 = some entry.2 := by
    cases target <;> decide +kernel
  exact each entry member

theorem normalizedName_of_mem_names {name : String} (known : name ∈ target.types.names) :
    " ".intercalate (Text.words name) = name := by
  have each : ∀ name ∈ target.types.names, " ".intercalate (Text.words name) = name := by
    rw [names_types]
    decide +kernel
  exact each name known

section Entry

variable {entry : String × TargetType} (member : entry ∈ target.types.entries) {spelled : String}
  (spells : Text.lower spelled = entry.1)

include member spells

theorem normalizedName_of_spells : ColumnType.normalizedName spelled = entry.1 := by
  rw [ColumnType.normalizedName_eq, spells]
  exact target.normalizedName_of_mem_names (List.mem_map_of_mem member)

theorem parenthesis_not_mem_of_spells : '(' ∉ spelled.toList := by
  intro inside
  have kept := target.lacks_parenthesis.mem_lower inside
  rw [spells] at kept
  exact target.lacks_parenthesis.absent _ (List.mem_map_of_mem member) kept

/-- A type of the table with blanks around it and whole numbers behind it. -/
theorem map_of_spells {before middle after text : String} {arguments : List String}
    (blankBefore : Text.allBlank before = true) (blankMiddle : Text.allBlank middle = true)
    (blankAfter : Text.allBlank after = true) (lists : ColumnType.Lists text arguments) :
    target.types.map (before ++ spelled ++ middle ++ "(" ++ text ++ ")" ++ after) =
      ⟨entry.2.render arguments, true⟩ := by
  have first : '(' ∉ (before ++ spelled ++ middle).toList := by
    simp [Text.not_mem_of_allBlank blankBefore, Text.not_mem_of_allBlank blankMiddle,
      target.parenthesis_not_mem_of_spells member spells, show Text.isBlank '(' = false by decide]
  have last : ')' ∉ after.toList := Text.not_mem_of_allBlank blankAfter (by decide)
  have blankRest : Text.allBlank (middle ++ (" " ++ after)) = true := by
    rw [Text.allBlank_append, Text.allBlank_append, blankMiddle, blankAfter]
    decide
  have name : ColumnType.normalizedName (before ++ spelled ++ middle ++ " " ++ after) = entry.1 := by
    rw [String.append_assoc, String.append_assoc,
      ColumnType.normalizedName_padded blankBefore blankRest,
      target.normalizedName_of_spells member spells]
  rw [TypeTable.map, ColumnType.ofText_of_lists first last lists]
  dsimp only
  rw [TypeTable.find?_normalizedName, name, target.lookup_of_mem member, Option.some_or]

end Entry

/-- A type may be written as any text: no cut of it fails, it becomes a name of the target that
only whole numbers in parentheses may follow, and it is known if the text outside its arguments
or the first word of that is in the table.  Each type of the table becomes its own counterpart,
which takes the whole numbers behind it over if it is sized. -/
theorem map_of_text (written : String) :
    ColumnType.ofPositions? written = some (ColumnType.ofText written) ∧
      ((∃ type ∈ target.types.fallback :: target.types.entries.map Prod.snd,
          (target.types.map written).rendered = type.name) ∨
        ∃ entry ∈ target.types.entries, ∃ arguments, entry.2.sized = true ∧ arguments ≠ [] ∧
          (∀ argument ∈ arguments, ColumnType.isDigits argument = true) ∧
          (target.types.map written).rendered =
            entry.2.name ++ "(" ++ ", ".intercalate arguments ++ ")") ∧
      (∃ outside, ColumnType.IsOutside written outside) ∧
      (∀ outside, ColumnType.IsOutside written outside →
        ((target.types.map written).known = true ↔
          ColumnType.normalizedName outside ∈ target.types.names ∨
            ∃ word ∈ (Text.words (ColumnType.normalizedName outside)).head?,
              word ∈ target.types.names)) ∧
      ∀ entry ∈ target.types.entries, ∀ before spelled middle text after arguments,
        Text.lower spelled = entry.1 → Text.allBlank before = true →
        Text.allBlank middle = true → Text.allBlank after = true →
        ColumnType.Lists text arguments →
        target.types.map (before ++ spelled ++ middle ++ "(" ++ text ++ ")" ++ after) =
          ⟨if entry.2.sized = true ∧ arguments ≠ [] then
            entry.2.name ++ "(" ++ ", ".intercalate arguments ++ ")" else entry.2.name, true⟩ := by
  refine ⟨ColumnType.ofPositions?_eq written, target.rendered_cases written,
    ColumnType.exists_isOutside written,
    fun outside isOutside => target.types.known_map_of_isOutside isOutside, ?_⟩
  intro entry member before spelled middle text after arguments spells blankBefore blankMiddle
    blankAfter lists
  rw [target.map_of_spells member spells blankBefore blankMiddle blankAfter lists,
    TargetType.render_eq]

/-- A type that closes before it opens is unknown, and a text of a length is known in any letter
case by both targets. -/
theorem map_paddedText :
    ColumnType.IsOutside ")é(" ")é(" ∧ ColumnType.Lists "20" ["20"] ∧
      (sqlAlchemy.types.map ")é(").known = false ∧
      sqlAlchemy.types.map ("\n" ++ "VarChar" ++ " " ++ "(" ++ "20" ++ ")" ++ "") =
        ⟨"String(20)", true⟩ ∧
      sequelize.types.map ("" ++ "INT" ++ " " ++ "(" ++ "20" ++ ")" ++ "\t") =
        ⟨"DataTypes.INTEGER", true⟩ := by
  have unclosed : ColumnType.IsOutside (")é" ++ "(" ++ "") (")é" ++ "(" ++ "") :=
    .unclosed (by decide) (by decide)
  have lists : ColumnType.Lists "20" ["20"] :=
    ⟨by decide, ["20"], .cons ⟨"", "", rfl, rfl, rfl⟩ .nil, rfl⟩
  obtain ⟨-, -, -, known, mapped⟩ := sqlAlchemy.map_of_text ")é("
  obtain ⟨-, -, -, -, unsized⟩ := sequelize.map_of_text ")é("
  refine ⟨unclosed, lists, ?_, mapped ("varchar", ⟨"String", true⟩) (by decide) "\n" "VarChar" " "
    "20" "" ["20"] (by decide) rfl rfl rfl lists, unsized ("int", ⟨"DataTypes.INTEGER", false⟩)
    (by decide) "" "INT" " " "20" "\t" ["20"] (by decide) rfl rfl rfl lists⟩
  rw [← Bool.not_eq_true, known ")é(" unclosed]
  decide +kernel

end Target

end OrmCode
