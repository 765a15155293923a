import OrmCode.Proofs.Javascript.Token
import OrmCode.Proofs.Statement.Filter
import OrmCode.Proofs.Text.Identifier

/-!
# Words

Identifiers, numerals of SQL and counts are words of generated code.
-/

namespace OrmCode

namespace Javascript

theorem continuesWord_of_isDigit {digit : Char} (isDigit : digit.isDigit = true) :
    continuesWord digit = true := by
  simp [continuesWord, Text.continuesIdentifier, Char.isAlphanum, isDigit]

theorem isWord_of_isNumeral {numeral : String} (isNumeral : Text.isNumeral numeral = true) :
    isWord numeral = true := by
  rw [Text.isNumeral, Bool.and_eq_true, List.all_eq_true] at isNumeral
  obtain ⟨spelled, starts⟩ := isNumeral
  have something : numeral.toList.isEmpty = false := by
    cases characters : numeral.toList with
    | nil => simp [characters] at starts
    | cons first rest => rfl
  rw [isWord, something, Bool.not_false, Bool.true_and, List.all_eq_true]
  intro character member
  have allowed := spelled character member
  simp only [Bool.or_eq_true, List.contains_eq_mem, List.mem_cons, List.not_mem_nil, or_false,
    decide_eq_true_eq] at allowed
  rcases allowed with digit | rfl | rfl | rfl | rfl | rfl
  · exact continuesWord_of_isDigit digit
  all_goals decide

theorem isWord_of_isIdentifier {name : String} (bare : Text.isIdentifier name = true) :
    isWord name = true := by
  have continues := Text.continues_of_isIdentifier bare
  have something : name.toList.isEmpty = false := by
    rw [Text.isIdentifier] at bare
    cases characters : name.toList with
    | nil =>
        rw [characters] at bare
        cases bare
    | cons first rest => rfl
  rw [isWord, something, Bool.not_false, Bool.true_and, List.all_eq_true]
  intro character member
  rw [continuesWord, continues character member, Bool.true_or]

theorem isWord_toString (count : Nat) : isWord (toString count) = true := by
  rw [isWord, Nat.toString_eq_repr, Bool.and_eq_true, List.all_eq_true, Nat.toList_repr]
  refine ⟨by simp, fun digit member => ?_⟩
  exact continuesWord_of_isDigit (Nat.isDigit_of_mem_toDigits (by decide) (by decide) member)

theorem isWord_identifierAvoiding (reserved : List String) (name : String) :
    isWord (Text.identifierAvoiding reserved name) = true := by
  have continues := Text.continues_identifierAvoiding reserved name
  have something := Text.identifierAvoiding_ne_empty reserved name
  rw [isWord, Bool.and_eq_true, List.all_eq_true]
  refine ⟨by simpa using something, fun character member => ?_⟩
  rw [continuesWord, continues character member, Bool.true_or]

end Javascript

end OrmCode
