import Mathlib.Algebra.Group.Nat.Defs
import OrmCode.Text.WholeNumber

/-!
# Numbers written by digits

A whole number is written by digits and nothing else, which may start with zeros.  A count is a
whole number below two to the power of sixty-four.
-/

namespace OrmCode

namespace Text

/-- One or more decimal digits. -/
structure IsDigits (digits : List Char) : Prop where
  something : digits ≠ []
  each : ∀ digit ∈ digits, digit.isDigit = true

theorem isDigits_iff {digits : List Char} :
    (!digits.isEmpty && digits.all Char.isDigit) = true ↔ IsDigits digits := by
  rw [Bool.and_eq_true, Bool.not_eq_true', List.isEmpty_eq_false_iff, List.all_eq_true]
  exact ⟨fun ⟨something, each⟩ => ⟨something, each⟩,
    fun written => ⟨written.something, written.each⟩⟩

instance (digits : List Char) : Decidable (IsDigits digits) :=
  decidable_of_iff _ isDigits_iff

theorem digitsValue_eq_ofDigitChars (digits : List Char) (begun : Nat) :
    digitsValue begun digits = Nat.ofDigitChars 10 digits begun := by
  induction digits generalizing begun with
  | nil => rfl
  | cons digit digits induction =>
      calc digitsValue begun (digit :: digits)
        _ = digitsValue (begun * 10 + (digit.toNat - '0'.toNat)) digits := rfl
        _ = Nat.ofDigitChars 10 digits (10 * begun + (digit.toNat - '0'.toNat)) := by
            rw [induction, Nat.mul_comm 10 begun]
        _ = Nat.ofDigitChars 10 (digit :: digits) begun := Nat.ofDigitChars_cons.symm

theorem wholeNumber?_eq_some_iff {text : String} {number : Nat} :
    wholeNumber? text = some number ↔
      IsDigits text.toList ∧ Nat.ofDigitChars 10 text.toList 0 = number := by
  simp only [wholeNumber?, isDigits_iff, digitsValue_eq_ofDigitChars, Option.ite_none_right_eq_some,
    Option.some.injEq]

theorem count?_eq_some_iff {text : String} {number : Nat} :
    count? text = some number ↔
      IsDigits text.toList ∧ Nat.ofDigitChars 10 text.toList 0 = number ∧ number < 2 ^ 64 := by
  rw [count?, numberBelow?, Option.filter_eq_some_iff, wholeNumber?_eq_some_iff, and_assoc,
    decide_eq_true_iff]
  rfl

/-- A number is read back from its digits. -/
theorem wholeNumber?_toString (number : Nat) : wholeNumber? (toString number) = some number := by
  rw [wholeNumber?_eq_some_iff, Nat.toString_eq_repr, Nat.toList_repr]
  exact ⟨⟨Nat.toDigits_ne_nil, fun _ => Nat.isDigit_of_mem_toDigits (by decide) (by decide)⟩,
    Nat.ofDigitChars_ten_toDigits⟩

end Text

end OrmCode
