import OrmCode.Proofs.Code.TypeTable
import OrmCode.Proofs.Javascript.Term
import OrmCode.Proofs.Outcome
import OrmCode.Proofs.Python.Term
import OrmCode.Proofs.Text.Lines

/-!
# Column types in definitions

The type of a column is a word of the target, which may be called on whole numbers.
Whatever the type is written as, it is one term and stays within its line.
-/

namespace OrmCode

open Javascript (Term isWord)

theorem ColumnType.isWord_of_isDigits {digits : String}
    (whole : ColumnType.isDigits digits = true) : isWord digits = true := by
  rw [ColumnType.isDigits, Bool.and_eq_true, List.all_eq_true] at whole
  rw [isWord, Bool.and_eq_true, List.all_eq_true]
  refine ⟨by simpa using whole.1, fun digit member => ?_⟩
  exact Javascript.continuesWord_of_isDigit (whole.2 digit member)

theorem ColumnType.isDigits_of_mem_arguments {written argument : String}
    (member : argument ∈ (ColumnType.ofText written).arguments) :
    ColumnType.isDigits argument = true := by
  rw [ColumnType.ofText] at member
  split at member
  · exact List.of_mem_filter member
  · cases member

namespace TargetType

/-- The term of a type with the lengths it takes over. -/
def term (type : TargetType) (arguments : List String) : Term :=
  if type.sized && !arguments.isEmpty then
    .list (.call type.name) (arguments.map .word)
  else .word type.name

def word? : Term → Option String
  | .word spelling => some spelling
  | _ => none

def read? : Term → Option String
  | .word name => some name
  | .list (.call name) digits =>
    (digits.mapM word?).map fun digits => name ++ "(" ++ ", ".intercalate digits ++ ")"
  | _ => none

theorem read?_term (type : TargetType) (arguments : List String) :
    read? (type.term arguments) = some (type.render arguments) := by
  rw [term, render]
  split
  · have digits : (arguments.map Term.word).mapM word? = some arguments :=
      Outcome.mapM_map_eq_some fun argument _ => rfl
    rw [read?, digits]
    rfl
  · rfl

theorem term_ne_text (type : TargetType) (arguments : List String) (value : String) :
    type.term arguments ≠ .text value := by
  rw [term]
  split <;> nofun

section Words

variable {type : TargetType} (word : isWord type.name = true) {arguments : List String}
  (words : ∀ argument ∈ arguments, isWord argument = true)

include word words

theorem spells_render : Javascript.Spells (type.render arguments) [type.term arguments] := by
  rw [render, term]
  split
  · have digits : List.Forall₂ (fun text term => Javascript.Spells text [term]) arguments
        (arguments.map Term.word) := by
      rw [List.forall₂_map_right_iff, List.forall₂_same]
      exact fun argument member => Javascript.Spells.word (words argument member)
    have items := Javascript.Spells.intercalate Javascript.separates_comma
      (List.forall₂_map_right_iff.mpr digits :
        List.Forall₂ _ arguments ((arguments.map Term.word).map fun term => [term]))
    rw [← List.flatMap_def, List.flatMap_singleton'] at items
    exact Javascript.Spells.enclosed (Javascript.opens_call word) (Javascript.closes_call _) items
  · exact Javascript.Spells.word word

theorem spells_render_python : Python.Spells (type.render arguments) [type.term arguments] := by
  rw [render, term]
  split
  · have items := Python.Spells.intercalate Python.delimits_comma
      (List.forall₂_map_right_iff.mpr (List.forall₂_same.mpr fun argument member =>
        Python.Spells.word (words argument member)) :
        List.Forall₂ Python.Spells arguments (arguments.map fun argument => [.word argument]))
    rw [← List.flatMap_def, ← List.map_eq_flatMap] at items
    exact (Python.Spells.enclosed (Python.opens_call word) (Python.closes_call _) items).spells
  · exact Python.Spells.word word

theorem isLine_render : Text.isLine (type.render arguments) = true := by
  have line := Text.isLine_of_isWord word
  have digits : Text.isLine (", ".intercalate arguments) = true :=
    Text.isLine_intercalate (by decide) fun argument member =>
      Text.isLine_of_isWord (words argument member)
  rw [render]
  split
  · rw [Text.isLine_append, Text.isLine_append, Text.isLine_append, line, digits]
    decide
  · exact line

end Words

end TargetType

theorem Target.isWord_counterpart (target : Target) (written : String) :
    isWord (target.types.counterpart written).name = true := by
  have words : ∀ type ∈ target.types.fallback :: target.types.entries.map Prod.snd,
      isWord type.name = true := by
    cases target <;> decide +kernel
  exact words _ (target.types.counterpart_mem written)

/-- What a type becomes is a known target type with its lengths or the fallback without. -/
theorem Target.exists_rendered (target : Target) (written : String) :
    ∃ (type : TargetType) (arguments : List String), isWord type.name = true ∧
      (∀ argument ∈ arguments, isWord argument = true) ∧
      (target.types.map written).rendered = type.render arguments :=
  ⟨_, _, target.isWord_counterpart written, fun _ member =>
    ColumnType.isWord_of_isDigits (ColumnType.isDigits_of_mem_arguments member),
    target.rendered_types written⟩

end OrmCode
