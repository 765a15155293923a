import Mathlib.Algebra.Group.Nat.Even
import OrmCode.Lowering.Constant
import OrmCode.Proofs.Outcome

/-!
# Signs before constants

A constant may stand within any signs and parentheses.  Two signs before a number cancel each
other, so that its numeral has one sign or none; no other constant may have a sign, and what is
no constant is refused, whatever stands around it.
-/

namespace OrmCode

/-- Whether a numeral starts with a sign. -/
def Text.isSigned : List Char → Bool
  | first :: _ => first == '+' || first == '-'
  | [] => false

namespace Sql.Expr

/-- What is left of an expression without the signs and parentheses around it. -/
def core : Expr → Expr
  | minus operand => operand.core
  | nested inner => inner.core
  | expression => expression

/-- The number of minus signs around what is left of an expression. -/
def signs : Expr → Nat
  | minus operand => operand.signs + 1
  | nested inner => inner.signs
  | _ => 0

/-- An expression is a text, a truth value or NULL, and stands for a constant. -/
inductive IsWord : Expr → Literal → Prop
  | text (text : String) : IsWord (value (.string .single text)) (.string text)
  | quoted (text : String) : IsWord (value (.string .double text)) (.string text)
  | truth (truth : Bool) : IsWord (value (.boolean truth)) (.boolean truth)
  | null : IsWord (value .null) .null

/-- Whether the numeral within the signs of an expression, if there is one, has none itself. -/
def IsUnsigned (expression : Expr) : Prop :=
  ∀ numeral long, expression.core = value (.number numeral long) →
    Text.isSigned numeral.toList = false

end Sql.Expr

namespace Lowering

open Sql (Expr)

/-- The constant with one more sign before it, which only a number may have. -/
def opposite? : Literal → Option Literal
  | .number numeral => some (.number (negated numeral))
  | _ => none

/-- The constant with some signs before it. -/
def signed? : Nat → Literal → Option Literal
  | 0, constant => some constant
  | signs + 1, constant => (signed? signs constant).bind opposite?

theorem literal_minus_eq_ok_iff {operand : Expr} {value : Literal} :
    literal (.minus operand) = .ok value ↔
      ∃ constant, literal operand = .ok constant ∧ opposite? constant = some value := by
  rw [literal, Outcome.bind_eq_ok]
  refine exists_congr fun constant => and_congr_right fun _ => ?_
  cases constant <;> simp [opposite?, pure, Except.pure, throw, throwThe, MonadExceptOf.throw]

/-- What an expression stands for is what is left of it stands for, with the signs around it. -/
theorem literal_eq_ok_iff_signed? {expression : Expr} {value : Literal} :
    literal expression = .ok value ↔
      ∃ constant, literal expression.core = .ok constant ∧
        signed? expression.signs constant = some value := by
  fun_induction Expr.core expression generalizing value with
  | case1 operand induction =>
      simp only [literal_minus_eq_ok_iff, induction, Expr.signs, signed?, Option.bind_eq_some_iff]
      constructor
      · rintro ⟨constant, ⟨inner, found, before⟩, after⟩
        exact ⟨inner, found, constant, before, after⟩
      · rintro ⟨inner, found, constant, before, after⟩
        exact ⟨constant, ⟨inner, found, before⟩, after⟩
  | case2 inner induction => exact induction
  | case3 expression notMinus notNested =>
      have noSigns : expression.signs = 0 := by
        unfold Expr.signs
        split
        · next operand => exact absurd rfl (notMinus operand)
        · next inner => exact absurd rfl (notNested inner)
        · rfl
      simp [noSigns, signed?]

theorem negated_of_unsigned {numeral : String} (unsigned : Text.isSigned numeral.toList = false) :
    negated numeral = "-" ++ numeral := by
  unfold negated
  split
  · next magnitude written => simp [written, Text.isSigned] at unsigned
  · rfl

theorem negated_signed (numeral : String) : negated ("-" ++ numeral) = numeral := by
  simp [negated]

/-- Two signs cancel each other, so that a number has the sign of an odd number of them. -/
theorem signed?_number {numeral : String} (unsigned : Text.isSigned numeral.toList = false)
    (signs : Nat) : signed? signs (.number numeral) =
      some (.number (if Even signs then numeral else "-" ++ numeral)) := by
  induction signs with
  | zero => rfl
  | succ signs induction =>
      rw [signed?, induction, Option.bind_some, opposite?]
      by_cases even : Even signs
      · simp [even, Nat.even_add_one, negated_of_unsigned unsigned]
      · simp [even, Nat.even_add_one, negated_signed]

theorem signed?_of_opposite?_eq_none {constant : Literal} (unsignable : opposite? constant = none)
    (signs : Nat) : signed? signs constant = if signs = 0 then some constant else none := by
  induction signs with
  | zero => rfl
  | succ signs induction =>
      rw [signed?, induction]
      by_cases noSigns : signs = 0 <;> simp [noSigns, unsignable]

/-- What is left of an expression is no constant but a number or a word. -/
theorem cases_of_literal_core {expression : Expr} {constant : Literal}
    (found : literal expression.core = .ok constant) :
    (∃ numeral long, expression.core = .value (.number numeral long) ∧
      .number numeral = constant) ∨ expression.core.IsWord constant := by
  fun_induction Expr.core expression with
  | case1 operand induction => exact induction found
  | case2 inner induction => exact induction found
  | case3 expression notMinus notNested =>
      cases expression with
      | value spelled =>
          cases spelled with
          | number numeral long => exact .inl ⟨numeral, long, rfl, Except.ok.inj found⟩
          | string form text =>
              cases form with
              | single => exact .inr (Except.ok.inj found ▸ .text text)
              | double => exact .inr (Except.ok.inj found ▸ .quoted text)
              | _ => cases found
          | boolean truth => exact .inr (Except.ok.inj found ▸ .truth truth)
          | null => exact .inr (Except.ok.inj found ▸ .null)
          | placeholder text => cases found
      | minus operand => exact absurd rfl (notMinus operand)
      | nested inner => exact absurd rfl (notNested inner)
      | _ => cases found

theorem literal_of_isWord {expression : Expr} {constant : Literal}
    (word : expression.IsWord constant) :
    literal expression = .ok constant ∧ opposite? constant = none := by
  cases word <;> exact ⟨rfl, rfl⟩

/-- A number within signs is the number with the sign of an odd number of them. -/
theorem literal_of_number {expression : Expr} {numeral : String} {long : Bool}
    (number : expression.core = .value (.number numeral long))
    (unsigned : Text.isSigned numeral.toList = false) :
    literal expression =
      .ok (.number (if Even expression.signs then numeral else "-" ++ numeral)) :=
  literal_eq_ok_iff_signed?.mpr
    ⟨.number numeral, number ▸ rfl, signed?_number unsigned expression.signs⟩

/-- A text, a truth value or NULL stands for itself if there is no sign before it. -/
theorem literal_eq_ok_iff_of_isWord {expression : Expr} {constant value : Literal}
    (word : expression.core.IsWord constant) :
    literal expression = .ok value ↔ expression.signs = 0 ∧ constant = value := by
  obtain ⟨found, unsignable⟩ := literal_of_isWord word
  simp [literal_eq_ok_iff_signed?, found, signed?_of_opposite?_eq_none unsignable]

/-- A number that an expression stands for is written with one sign at most. -/
theorem isSigned_tail_of_literal {expression : Expr} {numeral : String}
    (unsigned : expression.IsUnsigned) (found : literal expression = .ok (.number numeral)) :
    Text.isSigned numeral.toList = false ∨ Text.isSigned numeral.toList.tail = false := by
  obtain ⟨constant, core, -⟩ := literal_eq_ok_iff_signed?.mp found
  obtain ⟨magnitude, long, number, rfl⟩ | word := cases_of_literal_core core
  · have single := unsigned magnitude long number
    rw [literal_of_number number single] at found
    obtain rfl := Literal.number.inj (Except.ok.inj found)
    split
    · exact .inl single
    · exact .inr (by simpa using single)
  · obtain ⟨-, rfl⟩ := (literal_eq_ok_iff_of_isWord word).mp found
    cases (literal_of_isWord word).2

/-- Within any signs and parentheses an unsigned number stands for itself after an even number
of signs and for itself behind one sign after an odd one, so that no number has two signs.  A
text, a truth value or NULL stands for itself exactly if it has no sign, and nothing else stands
for a constant. -/
theorem literal_determined {expression : Expr} (unsigned : expression.IsUnsigned) :
    (∀ numeral long, expression.core = .value (.number numeral long) →
      literal expression =
        .ok (.number (if Even expression.signs then numeral else "-" ++ numeral))) ∧
    (∀ constant, expression.core.IsWord constant → ∀ value,
      literal expression = .ok value ↔ expression.signs = 0 ∧ constant = value) ∧
    ((∀ numeral long, expression.core ≠ .value (.number numeral long)) →
      (∀ constant, ¬expression.core.IsWord constant) →
      ∃ reason, literal expression = .error reason) ∧
    ∀ numeral, literal expression = .ok (.number numeral) →
      Text.isSigned numeral.toList = false ∨ Text.isSigned numeral.toList.tail = false := by
  refine ⟨fun numeral long number => literal_of_number number (unsigned numeral long number),
    fun constant word value => literal_eq_ok_iff_of_isWord word, fun noNumber noWord => ?_,
    fun numeral => isSigned_tail_of_literal unsigned⟩
  cases found : literal expression with
  | error reason => exact ⟨reason, rfl⟩
  | ok value =>
      obtain ⟨constant, core, -⟩ := literal_eq_ok_iff_signed?.mp found
      obtain ⟨numeral, long, number, -⟩ | word := cases_of_literal_core core
      · exact absurd number (noNumber numeral long)
      · exact absurd word (noWord constant)

/-- The expression `-(-((-007.50)))`. -/
def thriceSigned : Expr :=
  .minus (.nested (.minus (.nested (.nested (.minus (.value (.number "007.50" false)))))))

theorem literal_thriceSigned :
    thriceSigned.IsUnsigned ∧ literal thriceSigned = .ok (.number "-007.50") := by
  have unsigned : thriceSigned.IsUnsigned := by
    rintro numeral long ⟨⟩
    decide
  have odd : ¬Even thriceSigned.signs := by decide
  refine ⟨unsigned, ((literal_determined unsigned).1 "007.50" false rfl).trans ?_⟩
  rw [if_neg odd]
  rfl

end Lowering

end OrmCode
