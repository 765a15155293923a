import OrmCode.Proofs.Javascript.Word
import OrmCode.Proofs.Text.Literal
import OrmCode.Proofs.Text.Split
import OrmCode.Text.Lines

/-!
# Lines of generated code

Quoted texts, words and what is made of them stay within one line, so that the lines
of code are found again when line feeds join them.
-/

namespace OrmCode

namespace Text

/-- Whether a text stays within one line. -/
def isLine (text : String) : Bool :=
  text.toList.all fun character => character != '\n' && character != '\x0d'

@[simp] theorem isLine_append (first second : String) :
    isLine (first ++ second) = (isLine first && isLine second) := by
  rw [isLine, String.toList_append, List.all_append]
  rfl

theorem isLine_intercalate {separator : String} (separatorLine : isLine separator = true)
    {texts : List String} (each : ∀ text ∈ texts, isLine text = true) :
    isLine (separator.intercalate texts) = true := by
  induction texts with
  | nil => rfl
  | cons first texts induction =>
      obtain ⟨here, later⟩ := List.forall_mem_cons.mp each
      cases texts with
      | nil => rwa [String.intercalate_singleton]
      | cons second texts =>
          have rest := induction later
          rw [String.intercalate_cons_cons, isLine_append, isLine_append, here, separatorLine,
            rest]
          rfl

/-- Line breaks within a quoted text are written as escapes. -/
theorem isLine_quoted (text : String) : isLine (quoted text) = true := by
  rw [isLine, List.all_eq_true]
  intro character member
  have apart : character ∉ ['\n', '\x0d', '\t'] := fun control =>
    not_mem_quoted control text member
  simp only [List.mem_cons, not_or] at apart
  simp [apart.1, apart.2.1]

theorem isLine_of_isWord {text : String} (word : Javascript.isWord text = true) :
    isLine text = true := by
  rw [Javascript.isWord, Bool.and_eq_true, List.all_eq_true] at word
  rw [isLine, List.all_eq_true]
  intro character member
  have continues := word.2 character member
  have apart : character ≠ '\n' ∧ character ≠ '\x0d' := by
    constructor <;>
    · rintro rfl
      revert continues
      decide
  simp [apart]

theorem lineCharacters_of_pieces {pieces : List (List Char)} {last : List Char}
    (something : last ≠ []) {characters : List Char}
    (split : splitCharacters (· == '\n') characters = pieces ++ [last])
    (kept : ∀ piece ∈ pieces, '\x0d' ∉ piece) : lineCharacters characters = pieces ++ [last] := by
  have unchanged : pieces.map dropCarriageReturn = pieces := by
    conv_rhs => rw [← List.map_id pieces]
    refine List.map_congr_left fun piece member => if_neg fun ending => ?_
    exact kept piece member (List.mem_of_getLast? ending)
  obtain ⟨first, rest, rfl⟩ := List.exists_cons_of_ne_nil something
  rw [lineCharacters, split, List.dropLast_concat, unchanged, List.getLast?_concat]

/-- The lines that line feeds join are found again. -/
theorem lines_intercalate {texts : List String} {last : String} (something : last ≠ "")
    (each : ∀ text ∈ texts ++ [last], isLine text = true) :
    lines ("\n".intercalate (texts ++ [last])) = texts ++ [last] := by
  have within : ∀ text ∈ texts ++ [last], '\n' ∉ text.toList ∧ '\x0d' ∉ text.toList := by
    intro text member
    have allowed := List.all_eq_true.mp (each text member)
    exact ⟨fun listed => absurd (allowed _ listed) (by decide),
      fun listed => absurd (allowed _ listed) (by decide)⟩
  have split : splitCharacters (· == '\n') ("\n".intercalate (texts ++ [last])).toList =
      texts.map String.toList ++ [last.toList] := by
    have lineFeed : "\n".toList = ['\n'] := rfl
    rw [String.toList_intercalate, lineFeed, splitCharacters_intercalate (by decide) (by simp)]
    · rw [List.map_append, List.map_singleton]
    · intro piece member character listed
      obtain ⟨text, given, rfl⟩ := List.mem_map.mp member
      have apart : character ≠ '\n' := by
        rintro rfl
        exact (within text given).1 listed
      simpa using apart
  have found := lineCharacters_of_pieces (by simpa using something) split (by
    intro piece member
    obtain ⟨text, given, rfl⟩ := List.mem_map.mp member
    exact (within text (List.mem_append_left _ given)).2)
  rw [lines, found, List.map_append, List.map_map]
  simp

end Text

end OrmCode
