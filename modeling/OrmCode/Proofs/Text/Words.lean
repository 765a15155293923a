import Mathlib.Data.List.TakeWhile
import OrmCode.Proofs.Text.Split

/-!
# Words between blanks

The blanks around a text belong to none of its words.
-/

namespace OrmCode

namespace Text

/-- The characters of the words, in order. -/
def wordPieces (characters : List Char) : List (List Char) :=
  (splitCharacters isBlank characters).filter fun piece => !piece.isEmpty

theorem words_eq (text : String) : words text = (wordPieces text.toList).map String.ofList := rfl

theorem wordPieces_append_cons {character : Char} (blank : isBlank character = true)
    (before after : List Char) :
    wordPieces (before ++ character :: after) = wordPieces before ++ wordPieces after := by
  rw [wordPieces, splitCharacters_append_cons blank, List.filter_append]
  rfl

theorem wordPieces_append_of_blank {before : List Char}
    (blank : ∀ character ∈ before, isBlank character = true) (characters : List Char) :
    wordPieces (before ++ characters) = wordPieces characters := by
  induction before with
  | nil => rfl
  | cons first before induction =>
      obtain ⟨here, later⟩ := List.forall_mem_cons.mp blank
      have shorter := wordPieces_append_cons here [] (before ++ characters)
      rw [induction later] at shorter
      exact shorter

theorem wordPieces_append_blank {after : List Char}
    (blank : ∀ character ∈ after, isBlank character = true) (characters : List Char) :
    wordPieces (characters ++ after) = wordPieces characters := by
  cases after with
  | nil => rw [List.append_nil]
  | cons first after =>
      obtain ⟨here, later⟩ := List.forall_mem_cons.mp blank
      have nothing : wordPieces after = [] := by
        have none_left := wordPieces_append_of_blank later []
        rwa [List.append_nil] at none_left
      rw [wordPieces_append_cons here, nothing, List.append_nil]

/-- The characters after the leading blanks are those between the blanks, and then blanks. -/
theorem exists_trailing (characters : List Char) :
    ∃ trailing, characters.dropWhile isBlank = trimmedCharacters characters ++ trailing ∧
      ∀ character ∈ trailing, isBlank character = true := by
  refine ⟨((characters.dropWhile isBlank).reverse.takeWhile isBlank).reverse, ?_,
    fun character member => List.mem_takeWhile_imp (List.mem_reverse.mp member)⟩
  rw [trimmedCharacters, ← List.reverse_append, List.takeWhile_append_dropWhile,
    List.reverse_reverse]

/-- A text with nothing but blanks around it. -/
def Pads (text padded : String) : Prop :=
  ∃ before after, allBlank before = true ∧ allBlank after = true ∧
    padded = before ++ text ++ after

theorem pads_trim (text : String) : Pads (trim text) text := by
  obtain ⟨trailing, split, blank⟩ := exists_trailing text.toList
  refine ⟨String.ofList (text.toList.takeWhile isBlank), String.ofList trailing, ?_, ?_, ?_⟩
  · rw [allBlank, String.toList_ofList]
    exact List.all_takeWhile
  · rw [allBlank, String.toList_ofList]
    exact List.all_eq_true.mpr blank
  · rw [← String.toList_inj, trim]
    simp [← split]

end Text

end OrmCode
