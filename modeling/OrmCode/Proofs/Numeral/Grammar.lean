import Mathlib.Algebra.Field.Rat
import OrmCode.Proofs.Scan.Number
import OrmCode.Proofs.Text.Digits

/-!
# Numbers of SQL, JavaScript and Python

All three languages write a number by digits, some of which may stand behind a point, and by a
power of ten.  They differ in the digits that may start a number.  Other forms, such as those with
underscores or with a letter for their base, are left out, since no number of SQL has them.  The
value of a number is the exact one, to which a language may have no equal among its own numbers.
-/

namespace OrmCode

namespace Text

/-- A power of ten, or nothing. -/
inductive IsPower : List Char → Prop
  | nothing : IsPower []
  | raised {letter : Char} {sign digits : List Char} (letters : letter = 'e' ∨ letter = 'E')
      (signs : sign = [] ∨ sign = ['+'] ∨ sign = ['-']) (written : IsDigits digits) :
      IsPower (letter :: (sign ++ digits))

/-- The exponent of a power. -/
def powerValue : List Char → ℤ
  | _ :: '-' :: digits => -Nat.ofDigitChars 10 digits 0
  | _ :: '+' :: digits => Nat.ofDigitChars 10 digits 0
  | _ :: digits => Nat.ofDigitChars 10 digits 0
  | [] => 0

/-- What digits before and behind a point and a power of ten write. -/
def decimalValue (whole fraction power : List Char) : ℚ :=
  (Nat.ofDigitChars 10 whole 0 + Nat.ofDigitChars 10 fraction 0 / 10 ^ fraction.length) *
    10 ^ powerValue power

end Text

open Text (IsDigits IsPower decimalValue)

/-- The numbers of a language: the digits that are a number alone, and those that may have a point
or a power behind them. -/
structure NumberGrammar where
  alone : List Char → Prop
  start : List Char → Prop
  digits_of_alone : ∀ digits, alone digits → IsDigits digits
  digits_of_start : ∀ digits, start digits → IsDigits digits

namespace NumberGrammar

/-- The text of a number and its value. -/
inductive Writes (grammar : NumberGrammar) : List Char → ℚ → Prop
  | alone {whole : List Char} (stands : grammar.alone whole) :
      Writes grammar whole (decimalValue whole [] [])
  | raised {whole power : List Char} (starts : grammar.start whole) (raises : IsPower power)
      (something : power ≠ []) : Writes grammar (whole ++ power) (decimalValue whole [] power)
  | pointed {whole fraction power : List Char} (starts : grammar.start whole)
      (behind : ∀ digit ∈ fraction, digit.isDigit = true) (raises : IsPower power) :
      Writes grammar (whole ++ '.' :: (fraction ++ power)) (decimalValue whole fraction power)
  | fraction {fraction power : List Char} (behind : IsDigits fraction) (raises : IsPower power) :
      Writes grammar ('.' :: (fraction ++ power)) (decimalValue [] fraction power)

/-- The text of a number, with at most one sign before it, and its value. -/
inductive Denotes (grammar : NumberGrammar) : List Char → ℚ → Prop
  | plain {text : List Char} {value : ℚ} (written : grammar.Writes text value) :
      Denotes grammar text value
  | opposite {text : List Char} {value : ℚ} (written : grammar.Writes text value) :
      Denotes grammar ('-' :: text) (-value)

/-- Any digits start a number of SQL. -/
def sql : NumberGrammar where
  alone := IsDigits
  start := IsDigits
  digits_of_alone _ := id
  digits_of_start _ := id

/-- Zero, or digits that do not start with a zero. -/
inductive IsDecimalInteger : List Char → Prop
  | zero : IsDecimalInteger ['0']
  | positive {first : Char} {rest : List Char} (nonzero : first ≠ '0')
      (digits : IsDigits (first :: rest)) : IsDecimalInteger (first :: rest)

theorem IsDecimalInteger.isDigits {digits : List Char} (integer : IsDecimalInteger digits) :
    IsDigits digits := by
  cases integer with
  | zero => decide
  | positive nonzero digits => exact digits

/-- A number of JavaScript in strict mode starts with no zero before other digits. -/
def javascript : NumberGrammar where
  alone := IsDecimalInteger
  start := IsDecimalInteger
  digits_of_alone _ := IsDecimalInteger.isDigits
  digits_of_start _ := IsDecimalInteger.isDigits

/-- Zeros, or digits that do not start with a zero. -/
inductive IsDecimalOrZeros : List Char → Prop
  | zeros {digits : List Char} (written : IsDigits digits) (all : ∀ digit ∈ digits, digit = '0') :
      IsDecimalOrZeros digits
  | positive {first : Char} {rest : List Char} (nonzero : first ≠ '0')
      (digits : IsDigits (first :: rest)) : IsDecimalOrZeros (first :: rest)

theorem IsDecimalOrZeros.isDigits {digits : List Char} (integer : IsDecimalOrZeros digits) :
    IsDigits digits := by
  cases integer with
  | zeros written all => exact written
  | positive nonzero digits => exact digits

/-- A whole number of Python other than zero does not start with a zero; any digits may stand
before a point or a power. -/
def python : NumberGrammar where
  alone := IsDecimalOrZeros
  start := IsDigits
  digits_of_alone _ := IsDecimalOrZeros.isDigits
  digits_of_start _ := id

/-- Whether the digits before a point and a power may stand there, if there are any. -/
def Admits (grammar : NumberGrammar) (whole dot power : List Char) : Prop :=
  whole = [] ∨ if dot = [] ∧ power = [] then grammar.alone whole else grammar.start whole

end NumberGrammar

namespace Sql

theorem isPower_iff {power : List Char} : IsPower power ↔ exponent power = power := by
  constructor
  · rintro (_ | ⟨letters, signs, written⟩)
    · rfl
    · exact exponent_raised letters signs written.something written.each
  · intro raised
    rw [← raised]
    rcases exponent_cases power with
      none | ⟨letter, sign, digits, same, letters, signs, something, each⟩
    · rw [none]
      exact .nothing
    · rw [same]
      exact .raised letters signs ⟨something, each⟩

/-- Digits with a point and digits behind them, or without, and a power are a number. -/
theorem isNumber_of_isDigits {whole dot fraction power : List Char} (digits : IsDigits whole)
    (pointed : dot = ['.'] ∨ dot = [] ∧ fraction = [])
    (behind : ∀ digit ∈ fraction, digit.isDigit = true) (raises : IsPower power) :
    IsNumber whole dot fraction power where
  before := digits.each
  pointed := pointed
  behind := behind
  raised := isPower_iff.mp raises
  starts := List.append_ne_nil_of_left_ne_nil digits.something _
  something := by
    obtain ⟨first, others, rfl⟩ := List.exists_cons_of_ne_nil digits.something
    have digit := digits.each first List.mem_cons_self
    intro point
    rw [List.cons_append, List.cons_append, List.cons.injEq] at point
    rw [point.1] at digit
    revert digit
    decide

/-- A point with digits behind it and a power are a number. -/
theorem isNumber_of_fraction {fraction power : List Char} (behind : IsDigits fraction)
    (raises : IsPower power) : IsNumber [] ['.'] fraction power where
  before := nofun
  pointed := .inl rfl
  behind := behind.each
  raised := isPower_iff.mp raises
  starts := List.cons_ne_nil _ _
  something point := behind.something (List.cons.inj point).2

/-- A number that starts with its point has digits behind it. -/
theorem IsNumber.fraction_of_nil {dot fraction power : List Char}
    (number : IsNumber [] dot fraction power) : dot = ['.'] ∧ IsDigits fraction := by
  rcases number.pointed with rfl | ⟨rfl, -⟩
  · refine ⟨rfl, fun nothing => number.something ?_, number.behind⟩
    rw [nothing]
    rfl
  · exact absurd rfl number.starts

end Sql

namespace NumberGrammar

open Sql (IsNumber)

variable {grammar : NumberGrammar}

/-- What a language writes as a number has the parts of a number, and its value by them. -/
theorem Writes.exists_isNumber {text : List Char} {value : ℚ}
    (written : grammar.Writes text value) :
    ∃ whole dot fraction power, IsNumber whole dot fraction power ∧
      text = whole ++ (dot ++ (fraction ++ power)) ∧
      value = decimalValue whole fraction power ∧ grammar.Admits whole dot power := by
  cases written with
  | alone alone =>
      have digits := grammar.digits_of_alone text alone
      exact ⟨text, [], [], [],
        Sql.isNumber_of_isDigits digits (.inr ⟨rfl, rfl⟩) nofun .nothing,
        (List.append_nil text).symm, rfl, .inr (by simpa using alone)⟩
  | @raised whole power starts raises something =>
      have digits := grammar.digits_of_start whole starts
      exact ⟨whole, [], [], power,
        Sql.isNumber_of_isDigits digits (.inr ⟨rfl, rfl⟩) nofun raises, rfl, rfl,
        .inr (by simpa [something] using starts)⟩
  | @pointed whole fraction power starts behind raises =>
      have digits := grammar.digits_of_start whole starts
      exact ⟨whole, ['.'], fraction, power,
        Sql.isNumber_of_isDigits digits (.inl rfl) behind raises, rfl, rfl,
        .inr (by simpa using starts)⟩
  | @fraction fraction power behind raises =>
      exact ⟨[], ['.'], fraction, power, Sql.isNumber_of_fraction behind raises, rfl, rfl, .inl rfl⟩

/-- A language that admits the parts of a number writes it by them. -/
theorem Admits.writes {whole dot fraction power : List Char}
    (admits : grammar.Admits whole dot power) (number : IsNumber whole dot fraction power) :
    grammar.Writes (whole ++ (dot ++ (fraction ++ power)))
      (decimalValue whole fraction power) := by
  have raises := Sql.isPower_iff.mpr number.raised
  rcases admits with rfl | starts
  · obtain ⟨rfl, behind⟩ := number.fraction_of_nil
    exact .fraction behind raises
  · rcases number.pointed with rfl | ⟨rfl, rfl⟩
    · rw [if_neg (by simp)] at starts
      exact .pointed starts number.behind raises
    · by_cases nothing : power = []
      · rw [if_pos ⟨rfl, nothing⟩] at starts
        subst nothing
        simpa using Writes.alone starts
      · rw [if_neg (by simp [nothing])] at starts
        exact .raised starts raises nothing

/-- A language writes a number exactly if it admits its parts, and then with their value. -/
theorem writes_iff {whole dot fraction power : List Char}
    (number : IsNumber whole dot fraction power) {value : ℚ} :
    grammar.Writes (whole ++ (dot ++ (fraction ++ power))) value ↔
      value = decimalValue whole fraction power ∧ grammar.Admits whole dot power := by
  constructor
  · intro written
    obtain ⟨_, _, _, _, other, same, denoted, admits⟩ := written.exists_isNumber
    obtain ⟨rfl, rfl, rfl, rfl⟩ := number.unique other same
    exact ⟨denoted, admits⟩
  · rintro ⟨rfl, admits⟩
    exact admits.writes number

end NumberGrammar

end OrmCode
