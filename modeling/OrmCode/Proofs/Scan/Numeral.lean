import OrmCode.Proofs.Lowering.Sign
import OrmCode.Proofs.Scan.Number
import OrmCode.Proofs.Statement.Filter

/-!
# Numerals of numbers that are read

The numeral of a number that a text is read with has no sign, since a sign is a symbol of its
own.  Where it is written again it is read back, also with its sign changed.
-/

namespace OrmCode

namespace Sql

/-- Whether a numeral is the one of a number that some text is read with. -/
def IsScanned (numeral : String) : Prop :=
  ∃ dialect text tokens long, scan dialect text = some tokens ∧ Token.number numeral long ∈ tokens

/-- A numeral that is read off a text is made of the parts of a number. -/
theorem IsScanned.exists_isNumber {numeral : String} (scanned : IsScanned numeral) :
    ∃ whole dot fraction power, IsNumber whole dot fraction power ∧
      numeral.toList = whole ++ (dot ++ (fraction ++ power)) := by
  obtain ⟨dialect, text, tokens, long, read, member⟩ := scanned
  rw [scan_eq_tokens?] at read
  obtain ⟨first, rest, after, -, step⟩ := exists_step_of_mem read member
  obtain ⟨begins, found⟩ := number_of_scanStep step
  obtain ⟨whole, dot, fraction, power, number, rfl⟩ := isNumber_of_scanNumber begins found
  exact ⟨whole, dot, fraction, power, number, by simp⟩

/-- The characters of a number are digits, points, letters of powers and signs of powers. -/
theorem IsNumber.characters {whole dot fraction power : List Char}
    (number : IsNumber whole dot fraction power) :
    ∀ character ∈ whole ++ (dot ++ (fraction ++ power)),
      (character.isDigit || ['.', 'e', 'E', '+', '-'].contains character) = true := by
  have digits : ∀ characters : List Char, (∀ digit ∈ characters, digit.isDigit = true) →
      ∀ character ∈ characters,
        (character.isDigit || ['.', 'e', 'E', '+', '-'].contains character) = true :=
    fun characters each character member => by rw [each character member, Bool.true_or]
  have powers : ∀ character ∈ power,
      (character.isDigit || ['.', 'e', 'E', '+', '-'].contains character) = true := by
    rcases exponent_cases power with none | ⟨letter, sign, raised, same, letters, signs, -, each⟩
    · rw [number.raised.symm.trans none]
      nofun
    · rw [number.raised.symm.trans same]
      simp only [List.forall_mem_cons, List.forall_mem_append]
      refine ⟨?_, ?_, digits raised each⟩
      · rcases letters with rfl | rfl <;> decide
      · rcases signs with rfl | rfl | rfl <;> exact List.all_eq_true.mp (by decide)
  simp only [List.forall_mem_append]
  refine ⟨digits whole number.before, ?_, digits fraction number.behind, powers⟩
  rcases number.pointed with rfl | ⟨rfl, -⟩ <;> exact List.all_eq_true.mp (by decide)

variable {numeral : String}

theorem IsScanned.isSigned (scanned : IsScanned numeral) :
    Text.isSigned numeral.toList = false := by
  obtain ⟨whole, dot, fraction, power, number, written⟩ := scanned.exists_isNumber
  obtain ⟨first, others, characters, begins⟩ := number.exists_cons
  rw [written, characters, Text.isSigned]
  rcases begins with digit | rfl
  · simp [ne_of_holds digit '+' (by decide), ne_of_holds digit '-' (by decide)]
  · decide

theorem IsScanned.isNumeral (scanned : IsScanned numeral) :
    Text.isNumeral numeral = true ∧ Text.isNumeral ("-" ++ numeral) = true := by
  obtain ⟨whole, dot, fraction, power, number, written⟩ := scanned.exists_isNumber
  obtain ⟨first, others, characters, begins⟩ := number.exists_cons
  have each := List.all_eq_true.mpr number.characters
  have starts : (first.isDigit || ['.', '-'].contains first) = true := by
    rcases begins with digit | rfl
    · rw [digit, Bool.true_or]
    · decide
  constructor
  · rw [Text.isNumeral, written, each, characters, List.head?_cons, Option.any_some, starts]
    rfl
  · simp only [Text.isNumeral, String.toList_append, written, List.all_append, each]
    rfl

/-- A number that a text is read with is read as itself on its own, with a sign and without. -/
theorem readsBack_of_number {dialect : Dialect} {text : String} {tokens : List Token}
    {numeral : String} {long : Bool} (scanned : scan dialect text = some tokens)
    (member : .number numeral long ∈ tokens) :
    dialect.ReadsBack (.number numeral) ∧
      dialect.ReadsBack (.number (Lowering.negated numeral)) := by
  have found : IsScanned numeral := ⟨dialect, text, tokens, long, scanned, member⟩
  obtain ⟨whole, dot, fraction, power, number, written⟩ := found.exists_isNumber
  obtain ⟨first, others, characters, begins⟩ := number.exists_cons
  have joined : whole ++ dot ++ fraction ++ power = numeral.toList := by simp [written]
  have plain : scanStep dialect first others = some (some (.number numeral false), []) := by
    rw [scanStep_number begins, ← characters, number.scanNumber, joined, String.ofList_toList]
  have spelled : numeral.toList = first :: others := written.trans characters
  have signed : ("-" ++ numeral).toList = '-' :: first :: others := by simp [spelled]
  constructor
  · refine .inl ?_
    rw [scan_eq_tokens?, spelled, tokens?_of_step plain]
    rfl
  · rw [Lowering.negated_of_unsigned found.isSigned]
    refine .inr ⟨numeral, rfl, ?_⟩
    rw [scan_eq_tokens?, signed, tokens?_of_step (scanStep_minus begins others),
      tokens?_of_step plain]
    rfl

end Sql

end OrmCode
