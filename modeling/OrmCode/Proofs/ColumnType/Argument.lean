import OrmCode.Proofs.ColumnType.Span
import OrmCode.Proofs.Text.FirstWord

/-!
# Arguments of column types

Whole numbers between commas are read as they are written, without the blanks around them.
-/

namespace OrmCode

namespace ColumnType

/-- A text that lists whole numbers, separated by commas. -/
structure Lists (written : String) (arguments : List String) : Prop where
  digits : ∀ argument ∈ arguments, isDigits argument = true
  separated : ∃ pieces, List.Forall₂ Text.Pads arguments pieces ∧ written = ",".intercalate pieces

theorem isDigit_of_isDigits {argument : String} (whole : isDigits argument = true) :
    ∀ digit ∈ argument.toList, digit.isDigit = true := by
  rw [isDigits, Bool.and_eq_true, List.all_eq_true] at whole
  exact whole.2

theorem isBlank_of_isDigit {digit : Char} (isDigit : digit.isDigit = true) :
    Text.isBlank digit = false := by
  rw [← Bool.not_eq_true]
  intro blank
  rw [Text.isDigit_of_isBlank blank] at isDigit
  cases isDigit

section Padded

variable {argument padded : String} (whole : isDigits argument = true)
  (pads : Text.Pads argument padded)

include whole pads

theorem comma_not_mem_of_pads : ∀ character ∈ padded.toList, (character == ',') = false := by
  obtain ⟨before, after, blankBefore, blankAfter, rfl⟩ := pads
  have blank : ∀ character, Text.isBlank character = true → (character == ',') = false :=
    fun character blank => beq_eq_false_iff_ne.mpr (Text.ne_of_isBlank blank (by decide))
  rw [String.toList_append, String.toList_append, List.forall_mem_append, List.forall_mem_append]
  refine ⟨⟨fun character member => blank _ (List.all_eq_true.mp blankBefore _ member),
    fun digit member => beq_eq_false_iff_ne.mpr ?_⟩,
    fun character member => blank _ (List.all_eq_true.mp blankAfter _ member)⟩
  rintro rfl
  exact absurd (isDigit_of_isDigits whole _ member) (by decide)

theorem trim_of_pads : Text.trim padded = argument := by
  obtain ⟨before, after, blankBefore, blankAfter, rfl⟩ := pads
  have visible : ∀ digit ∈ argument.toList, Text.isBlank digit = false :=
    fun digit member => isBlank_of_isDigit (isDigit_of_isDigits whole digit member)
  rw [Text.trim, String.toList_append, String.toList_append,
    Text.trimmedCharacters_padded (List.all_eq_true.mp blankBefore)
      (List.all_eq_true.mp blankAfter)
      (fun digit first => visible digit (List.mem_of_head? first))
      (fun digit last => visible digit (List.mem_of_getLast? last)),
    String.ofList_toList]

end Padded

/-- The arguments are the whole numbers among the pieces between commas. -/
theorem numericArguments_intercalate {pieces : List String} (something : pieces ≠ [])
    (kept : ∀ piece ∈ pieces, ∀ character ∈ piece.toList, (character == ',') = false) :
    numericArguments (",".intercalate pieces).toList = (pieces.map Text.trim).filter isDigits := by
  have split : Text.splitCharacters (· == ',') ([','].intercalate (pieces.map String.toList)) =
      pieces.map String.toList :=
    Text.splitCharacters_intercalate rfl (by simpa using something) (by simpa using kept)
  rw [numericArguments, String.toList_intercalate]
  exact congrArg _ ((congrArg _ split).trans (List.map_map ..))

section Pieces

variable {arguments pieces : List String}
  (digits : ∀ argument ∈ arguments, isDigits argument = true)
  (pads : List.Forall₂ Text.Pads arguments pieces)

include digits pads

theorem comma_not_mem_of_forall₂ :
    ∀ piece ∈ pieces, ∀ character ∈ piece.toList, (character == ',') = false := by
  induction pads with
  | nil => exact nofun
  | cons first _ induction =>
      obtain ⟨here, later⟩ := List.forall_mem_cons.mp digits
      exact List.forall_mem_cons.mpr ⟨comma_not_mem_of_pads here first, induction later⟩

theorem map_trim_of_forall₂ : pieces.map Text.trim = arguments := by
  induction pads with
  | nil => rfl
  | cons first _ induction =>
      obtain ⟨here, later⟩ := List.forall_mem_cons.mp digits
      rw [List.map_cons, trim_of_pads here first, induction later]

end Pieces

theorem numericArguments_of_lists {written : String} {arguments : List String}
    (lists : Lists written arguments) : numericArguments written.toList = arguments := by
  obtain ⟨digits, pieces, pads, rfl⟩ := lists
  cases pieces with
  | nil =>
      cases pads
      rfl
  | cons first pieces =>
      rw [numericArguments_intercalate (List.cons_ne_nil _ _) (comma_not_mem_of_forall₂ digits pads),
        map_trim_of_forall₂ digits pads, List.filter_eq_self]
      exact digits

/-- A type with a list of whole numbers between parentheses. -/
theorem ofText_of_lists {before after written : String} {arguments : List String}
    (first : '(' ∉ before.toList) (last : ')' ∉ after.toList) (lists : Lists written arguments) :
    ofText (before ++ "(" ++ written ++ ")" ++ after) =
      ⟨normalizedName (before ++ " " ++ after), arguments⟩ := by
  rw [ofText_of_closed first last, numericArguments_of_lists lists]

end ColumnType

end OrmCode
