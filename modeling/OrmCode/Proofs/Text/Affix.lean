import Mathlib.Data.List.Basic
import OrmCode.Text.Lines

/-!
# Affixes that are taken away again

What stands at the start or the end of a text is taken away again, and a text is split
where a separator first occurs.
-/

namespace OrmCode

namespace Text

theorem afterStart?_self_append (lead rest : List Char) :
    afterStart? lead (lead ++ rest) = some rest := by
  induction lead with
  | nil => rfl
  | cons first lead induction => rw [List.cons_append, afterStart?, if_pos rfl, induction]

theorem stripStart?_append (lead text : String) : stripStart? lead (lead ++ text) = some text := by
  rw [stripStart?, String.toList_append, afterStart?_self_append, Option.map_some,
    String.ofList_toList]

theorem stripEnd?_append (text tail : String) : stripEnd? tail (text ++ tail) = some text := by
  rw [stripEnd?, String.toList_append, List.reverse_append, afterStart?_self_append,
    Option.map_some, List.reverse_reverse, String.ofList_toList]

/-- A separator is not found before its first character occurs. -/
theorem splitOnceAt?_append {separator : String} {first : Char} {others : List Char}
    (starts : separator.toList = first :: others) {before : String}
    (apart : first ∉ before.toList) (after : String) :
    splitOnceAt? separator (before ++ separator ++ after) = some (before, after) := by
  have found : ∀ characters, first ∉ characters →
      splitOnce? separator.toList (characters ++ (separator.toList ++ after.toList)) =
        some (characters, after.toList) := by
    intro characters absent
    induction characters with
    | nil =>
        have here := afterStart?_self_append separator.toList after.toList
        rw [starts] at here
        rw [List.nil_append, starts, List.cons_append, splitOnce?, ← List.cons_append, here]
    | cons character characters induction =>
        obtain ⟨different, later⟩ := not_or.mp (mt List.mem_cons.mpr absent)
        have notHere : afterStart? separator.toList
            (character :: (characters ++ (separator.toList ++ after.toList))) = none := by
          rw [starts, afterStart?, if_neg different]
        rw [List.cons_append, splitOnce?, notHere]
        simp only [induction later, Option.map_some]
  rw [splitOnceAt?, String.toList_append, String.toList_append, List.append_assoc,
    found before.toList apart]
  simp only [Option.map_some, String.ofList_toList]

/-- A separator does not occur where one of its characters is missing. -/
theorem splitOnceAt?_eq_none {separator text : String} {character : Char}
    (member : character ∈ separator.toList) (absent : character ∉ text.toList) :
    splitOnceAt? separator text = none := by
  have missing : ∀ {lead characters : List Char}, character ∈ lead → character ∉ characters →
      afterStart? lead characters = none := by
    intro lead
    induction lead with
    | nil => exact fun member => absurd member List.not_mem_nil
    | cons wanted lead induction =>
        intro characters member absent
        cases characters with
        | nil => rfl
        | cons first characters =>
            obtain ⟨different, later⟩ := not_or.mp (mt List.mem_cons.mpr absent)
            rw [afterStart?]
            split
            · next same =>
                subst same
                exact induction ((List.mem_cons.mp member).resolve_left different) later
            · rfl
  have nowhere : ∀ characters : List Char, character ∉ characters →
      splitOnce? separator.toList characters = none := by
    intro characters absent
    induction characters with
    | nil => rw [splitOnce?, missing member absent, Option.map_none]
    | cons first characters induction =>
        have later := induction (List.not_mem_of_not_mem_cons absent)
        rw [splitOnce?, missing member absent]
        simp only [later, Option.map_none]
  rw [splitOnceAt?, nowhere _ absent, Option.map_none]

theorem dropAtEnd_eq_self {unwanted : Char} {text : String}
    (ends : text.toList.getLast? ≠ some unwanted) : dropAtEnd unwanted text = text := by
  have kept : text.toList.reverse.dropWhile (· == unwanted) = text.toList.reverse := by
    rw [← List.head?_reverse] at ends
    cases reversed : text.toList.reverse with
    | nil => rfl
    | cons last others =>
        rw [reversed] at ends
        exact List.dropWhile_cons_of_neg (by simpa using ends)
  rw [dropAtEnd, kept, List.reverse_reverse, String.ofList_toList]

theorem dropAtEnd_append_unwanted (unwanted : Char) (text : String) :
    dropAtEnd unwanted (text ++ String.singleton unwanted) = dropAtEnd unwanted text := by
  rw [dropAtEnd, dropAtEnd, String.toList_append, String.toList_singleton, List.reverse_append,
    List.reverse_singleton, List.singleton_append, List.dropWhile_cons_of_pos (by simp)]

theorem dropAtEnds_of_not_mem {unwanted : Char} {text : String}
    (absent : unwanted ∉ text.toList) : dropAtEnds unwanted text = text := by
  have kept : text.toList.dropWhile (· == unwanted) = text.toList := by
    cases characters : text.toList with
    | nil => rfl
    | cons first others =>
        rw [characters] at absent
        have different := List.ne_of_not_mem_cons absent
        exact List.dropWhile_cons_of_neg (by simpa using different.symm)
  have notLast : text.toList.getLast? ≠ some unwanted :=
    fun last => absent (List.mem_of_getLast? last)
  rw [dropAtEnds, kept, String.ofList_toList, dropAtEnd_eq_self notLast]

end Text

end OrmCode
