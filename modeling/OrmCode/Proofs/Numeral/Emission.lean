import Mathlib.Tactic.NormNum
import OrmCode.Code.Sequelize
import OrmCode.Code.SqlAlchemy
import OrmCode.Proofs.Numeral.Grammar
import OrmCode.Proofs.Scan.Numeral

/-!
# Values of numbers in generated code

A number within signs and parentheses stands in generated code with the digits it has in SQL and
with one sign at most.  It has the value there that it has in SQL, if it is a number of the
language at all; it is none if it starts with a zero that only SQL allows there.
-/

namespace OrmCode

namespace Text

/-- Whether a zero that a numeral starts with is all that stands before its point and its power. -/
def StartsPlainly (numeral : List Char) : Prop :=
  numeral.head? = some '0' → numeral.takeWhile Char.isDigit = ['0']

/-- Whether a numeral of digits only that starts with a zero has nothing but zeros. -/
def StartsPlainlyIfWhole (numeral : List Char) : Prop :=
  (∀ digit ∈ numeral, digit.isDigit = true) → numeral.head? = some '0' →
    ∀ digit ∈ numeral, digit = '0'

end Text

/-- A number behind some signs. -/
def signedValue (signs : Nat) (value : ℚ) : ℚ :=
  if Even signs then value else -value

theorem signedValue_succ (signs : Nat) (value : ℚ) :
    signedValue (signs + 1) value = signedValue signs (-value) := by
  by_cases even : Even signs <;> simp [signedValue, even, Nat.even_add_one]

/-- The same signs before a number take each other away. -/
theorem signedValue_eq_iff {signs : Nat} {value other : ℚ} :
    signedValue signs value = other ↔ value = signedValue signs other := by
  unfold signedValue
  split
  · rfl
  · exact neg_eq_iff_eq_neg

namespace NumberGrammar

open Sql (IsNumber)
open Text (IsDigits decimalValue)

theorem isDecimalInteger_cons_iff {first : Char} {rest : List Char}
    (digits : IsDigits (first :: rest)) :
    IsDecimalInteger (first :: rest) ↔ (first = '0' → rest = []) := by
  constructor
  · rintro (_ | ⟨nonzero, -⟩) zero
    · rfl
    · exact absurd zero nonzero
  · intro alone
    by_cases zero : first = '0'
    · rw [zero, alone zero]
      exact .zero
    · exact .positive zero digits

theorem isDecimalOrZeros_cons_iff {first : Char} {rest : List Char}
    (digits : IsDigits (first :: rest)) :
    IsDecimalOrZeros (first :: rest) ↔
      (first = '0' → ∀ digit ∈ first :: rest, digit = '0') := by
  constructor
  · rintro (⟨-, all⟩ | ⟨nonzero, -⟩) zero
    · exact all
    · exact absurd zero nonzero
  · intro zeros
    by_cases zero : first = '0'
    · exact .zeros digits (zeros zero)
    · exact .positive zero digits

section Parts

variable {whole dot fraction power : List Char}

/-- SQL admits all parts of a number. -/
theorem admits_sql (number : IsNumber whole dot fraction power) : sql.Admits whole dot power := by
  by_cases nothing : whole = []
  · exact .inl nothing
  · exact .inr (by split <;> exact ⟨nothing, number.before⟩)

/-- A number of digits only has neither a point nor a power. -/
theorem nothing_of_digits (number : IsNumber whole dot fraction power)
    (all : ∀ digit ∈ whole ++ (dot ++ (fraction ++ power)), digit.isDigit = true) :
    dot = [] ∧ power = [] := by
  simp only [List.forall_mem_append] at all
  obtain ⟨-, dots, -, powers⟩ := all
  constructor
  · rcases number.pointed with rfl | ⟨rfl, -⟩
    · exact absurd (dots '.' List.mem_cons_self) (by decide)
    · rfl
  · rcases Sql.isPower_iff.mpr number.raised with _ | ⟨letters, -, -⟩
    · rfl
    · have letter := powers _ List.mem_cons_self
      rcases letters with rfl | rfl <;> exact absurd letter (by decide)

theorem admits_javascript_iff (number : IsNumber whole dot fraction power) :
    javascript.Admits whole dot power ↔
      Text.StartsPlainly (whole ++ (dot ++ (fraction ++ power))) := by
  rw [Text.StartsPlainly, number.read.1]
  cases whole with
  | nil =>
      obtain ⟨rfl, -⟩ := number.fraction_of_nil
      exact ⟨fun _ => nofun, fun _ => .inl rfl⟩
  | cons first rest =>
      have digits : IsDigits (first :: rest) := ⟨List.cons_ne_nil _ _, number.before⟩
      have admits : javascript.Admits (first :: rest) dot power ↔
          IsDecimalInteger (first :: rest) := by
        simp [Admits, javascript]
      rw [admits, isDecimalInteger_cons_iff digits, List.cons_append, List.head?_cons,
        Option.some.injEq, List.cons.injEq]
      exact forall_congr' fun zero => (and_iff_right zero).symm

theorem admits_python_iff (number : IsNumber whole dot fraction power) :
    python.Admits whole dot power ↔
      Text.StartsPlainlyIfWhole (whole ++ (dot ++ (fraction ++ power))) := by
  cases whole with
  | nil =>
      obtain ⟨rfl, -⟩ := number.fraction_of_nil
      exact ⟨fun _ _ => nofun, fun _ => .inl rfl⟩
  | cons first rest =>
      have digits : IsDigits (first :: rest) := ⟨List.cons_ne_nil _ _, number.before⟩
      by_cases alone : dot = [] ∧ power = []
      · obtain ⟨rfl, rfl⟩ := alone
        obtain rfl : fraction = [] := by simpa using number.pointed
        have admits : python.Admits (first :: rest) [] [] ↔ IsDecimalOrZeros (first :: rest) := by
          simp [Admits, python]
        rw [admits, isDecimalOrZeros_cons_iff digits, List.append_nil, List.append_nil,
          List.append_nil, Text.StartsPlainlyIfWhole, List.head?_cons, Option.some.injEq]
        exact ⟨fun zeros _ => zeros, fun zeros => zeros digits.each⟩
      · refine ⟨fun _ all => absurd (nothing_of_digits number all) alone, fun _ => .inr ?_⟩
        rw [if_neg alone]
        exact digits

end Parts

variable {grammar : NumberGrammar}

theorem Writes.head?_ne {text : List Char} {value : ℚ} (written : grammar.Writes text value) :
    text.head? ≠ some '-' := by
  obtain ⟨whole, dot, fraction, power, number, rfl, -, -⟩ := written.exists_isNumber
  obtain ⟨first, others, characters, begins⟩ := number.exists_cons
  rw [characters, List.head?_cons]
  rintro ⟨⟩
  exact absurd begins (by decide)

theorem denotes_iff_writes {text : List Char} (unsigned : text.head? ≠ some '-') {value : ℚ} :
    grammar.Denotes text value ↔ grammar.Writes text value := by
  constructor
  · rintro (written | _)
    · exact written
    · exact absurd rfl unsigned
  · exact .plain

theorem denotes_opposite_iff {text : List Char} {value : ℚ} :
    grammar.Denotes ('-' :: text) value ↔ grammar.Writes text (-value) := by
  constructor
  · rintro (written | written)
    · exact absurd rfl written.head?_ne
    · rwa [neg_neg]
  · intro written
    have denoted := Denotes.opposite written
    rwa [neg_neg] at denoted

/-- The numeral of a number behind some signs, of which one is left or none, denotes the number
or its opposite if the language admits the number. -/
theorem denotes_signed_iff {numeral : String} {whole dot fraction power : List Char}
    (number : IsNumber whole dot fraction power)
    (spelled : numeral.toList = whole ++ (dot ++ (fraction ++ power))) (signs : Nat) {value : ℚ} :
    grammar.Denotes (if Even signs then numeral else "-" ++ numeral).toList value ↔
      grammar.Writes numeral.toList (signedValue signs value) := by
  obtain ⟨first, others, characters, begins⟩ := number.exists_cons
  have unsigned : numeral.toList.head? ≠ some '-' := by
    rw [spelled, characters, List.head?_cons]
    rintro ⟨⟩
    exact absurd begins (by decide)
  by_cases even : Even signs
  · rw [if_pos even, signedValue, if_pos even]
    exact denotes_iff_writes unsigned
  · rw [if_neg even, signedValue, if_neg even, String.toList_append]
    exact denotes_opposite_iff

end NumberGrammar

namespace Sql

open NumberGrammar (sql)

/-- What an expression of a number, signs and parentheses is worth in SQL. -/
inductive Expr.Denotes : Expr → ℚ → Prop
  | number {numeral : String} {long : Bool} {value : ℚ}
      (written : sql.Writes numeral.toList value) :
      Denotes (.value (.number numeral long)) value
  | minus {operand : Expr} {value : ℚ} (denoted : Denotes operand value) :
      Denotes (.minus operand) (-value)
  | nested {inner : Expr} {value : ℚ} (denoted : Denotes inner value) :
      Denotes (.nested inner) value

theorem Expr.denotes_number_iff {numeral : String} {long : Bool} {value : ℚ} :
    Denotes (.value (.number numeral long)) value ↔ sql.Writes numeral.toList value :=
  ⟨fun | .number written => written, .number⟩

theorem Expr.denotes_minus_iff {operand : Expr} {value : ℚ} :
    (minus operand).Denotes value ↔ operand.Denotes (-value) := by
  constructor
  · rintro ⟨⟩
    rwa [neg_neg]
  · intro denoted
    have opposite := Denotes.minus denoted
    rwa [neg_neg] at opposite

theorem Expr.denotes_nested_iff {inner : Expr} {value : ℚ} :
    (nested inner).Denotes value ↔ inner.Denotes value :=
  ⟨fun | .nested denoted => denoted, .nested⟩

/-- An expression is worth its number, or the opposite behind an odd number of signs. -/
theorem Expr.denotes_iff {expression : Expr} {numeral : String} {long : Bool}
    (core : expression.core = .value (.number numeral long)) {value : ℚ} :
    expression.Denotes value ↔
      sql.Writes numeral.toList (signedValue expression.signs value) := by
  fun_induction Expr.core expression generalizing value with
  | case1 operand induction =>
      rw [denotes_minus_iff, induction core, signs, signedValue_succ]
  | case2 inner induction => rw [denotes_nested_iff, induction core, signs]
  | case3 expression notMinus notNested =>
      subst core
      have noSigns : signedValue (signs (.value (.number numeral long))) value = value :=
        if_pos Even.zero
      rw [denotes_number_iff, noSigns]

end Sql

/-- A number within any signs and parentheses is written in generated code with the value that it
has in SQL, unless it starts with a zero that its language does not allow.  Then the code has no
number of the language: in JavaScript if other digits follow the zero, in Python if they are not all
zeros and neither a point nor a power follows them. -/
theorem literal_denotes_iff {expression : Sql.Expr} {numeral : String} {long : Bool}
    (scanned : Sql.IsScanned numeral) (core : expression.core = .value (.number numeral long)) :
    ∃ text value, Lowering.literal expression = .ok (.number text) ∧
      (∀ denoted, expression.Denotes denoted ↔ denoted = value) ∧
      (∀ denoted,
        NumberGrammar.javascript.Denotes (Sequelize.literal (.number text)).toList denoted ↔
          denoted = value ∧ Text.StartsPlainly numeral.toList) ∧
      ∀ denoted,
        NumberGrammar.python.Denotes (SqlAlchemy.literal (.number text)).toList denoted ↔
          denoted = value ∧ Text.StartsPlainlyIfWhole numeral.toList := by
  obtain ⟨whole, dot, fraction, power, number, spelled⟩ := scanned.exists_isNumber
  have writes : ∀ (grammar : NumberGrammar) (denoted : ℚ),
      grammar.Writes numeral.toList (signedValue expression.signs denoted) ↔
        denoted = signedValue expression.signs (Text.decimalValue whole fraction power) ∧
          grammar.Admits whole dot power := by
    intro grammar denoted
    rw [spelled, NumberGrammar.writes_iff number, signedValue_eq_iff]
  refine ⟨_, signedValue expression.signs (Text.decimalValue whole fraction power),
    Lowering.literal_of_number core scanned.isSigned, fun denoted => ?_, fun denoted => ?_,
    fun denoted => ?_⟩
  · rw [Sql.Expr.denotes_iff core, writes]
    exact and_iff_left (NumberGrammar.admits_sql number)
  · rw [spelled, ← NumberGrammar.admits_javascript_iff number, ← writes]
    exact NumberGrammar.denotes_signed_iff number spelled expression.signs
  · rw [spelled, ← NumberGrammar.admits_python_iff number, ← writes]
    exact NumberGrammar.denotes_signed_iff number spelled expression.signs

/-- The expression `-(007.50)`. -/
def paddedNumber : Sql.Expr :=
  .minus (.nested (.value (.number "007.50" false)))

/-- Python reads the number as SQL does, and to JavaScript in strict mode it is none. -/
theorem literal_paddedNumber :
    Sql.IsScanned "007.50" ∧ paddedNumber.Denotes (-15 / 2) ∧
      Lowering.literal paddedNumber = .ok (.number "-007.50") ∧
      NumberGrammar.python.Denotes "-007.50".toList (-15 / 2) ∧
      ∀ denoted, ¬NumberGrammar.javascript.Denotes "-007.50".toList denoted := by
  have scanned : Sql.IsScanned "007.50" :=
    ⟨.generic, "007.50", [.number "007.50" false], false, by decide, List.mem_singleton_self _⟩
  obtain ⟨text, value, found, worth, javascript, python⟩ :=
    @literal_denotes_iff paddedNumber "007.50" false scanned rfl
  have spelled : Lowering.literal paddedNumber = .ok (.number "-007.50") := rfl
  obtain rfl := Literal.number.inj (Except.ok.inj (spelled.symm.trans found))
  have written : NumberGrammar.sql.Writes "007.50".toList
      (Text.decimalValue ['0', '0', '7'] ['5', '0'] []) :=
    @NumberGrammar.Writes.pointed _ ['0', '0', '7'] ['5', '0'] [] (by decide : Text.IsDigits _)
      (by decide : Text.IsDigits _).each .nothing
  have decimal : Text.decimalValue ['0', '0', '7'] ['5', '0'] [] = 15 / 2 := by
    have whole : Nat.ofDigitChars 10 ['0', '0', '7'] 0 = 7 := by decide
    have fraction : Nat.ofDigitChars 10 ['5', '0'] 0 = 50 := by decide
    have power : Text.powerValue [] = 0 := rfl
    rw [Text.decimalValue, whole, fraction, power]
    norm_num
  have denoted : paddedNumber.Denotes (-15 / 2) := by
    rw [neg_div, ← decimal]
    exact .minus (.nested (.number written))
  obtain rfl := (worth _).mp denoted
  refine ⟨scanned, denoted, spelled, (python _).mpr ⟨rfl, fun all => ?_⟩, fun other => ?_⟩
  · exact absurd (all '.' (by decide)) (by decide)
  · intro denotes
    have plain := ((javascript other).mp denotes).2 (by decide)
    revert plain
    decide

end OrmCode
