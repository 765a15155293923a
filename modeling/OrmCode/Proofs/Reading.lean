import OrmCode.Proofs.Outcome
import OrmCode.Reading

/-!
# Texts that are read

A text is read as a statement if and only if it passes each of the checks before.
-/

namespace OrmCode

namespace Reading

variable {dialect : Sql.Dialect} {maxLength : Nat} {text : String}

theorem checkSize_eq_ok_iff {value : Unit} : checkSize maxLength text = .ok value ↔
    Text.allBlank text = false ∧ text.utf8ByteSize ≤ maxLength := by
  unfold checkSize
  split
  · next blank => simp [blank]
  · next visible =>
      split
      · next long => simp [Nat.not_le.mpr long]
      · next short => simp [visible, Nat.not_lt.mp short]

theorem onlyStatement_eq_ok_iff {parsed : Sql.ParsedStatement} :
    onlyStatement dialect text = .ok parsed ↔ Sql.parse? dialect text = some [parsed] := by
  unfold onlyStatement
  split <;> simp_all

/-- A text is read as a statement if it is not blank, not too long, and one statement that can
be lowered. -/
theorem read_eq_ok_iff {statement : Statement} :
    read dialect maxLength text = .ok statement ↔
      Text.allBlank text = false ∧ text.utf8ByteSize ≤ maxLength ∧
        ∃ parsed, Sql.parse? dialect text = some [parsed] ∧
          Lowering.statement parsed = .ok statement := by
  simp only [read, Outcome.bind_eq_ok, Outcome.mapError_eq_ok, checkSize_eq_ok_iff,
    onlyStatement_eq_ok_iff]
  constructor
  · rintro ⟨_, ⟨visible, short⟩, parsed, only, lowered⟩
    exact ⟨visible, short, parsed, only, lowered⟩
  · rintro ⟨visible, short, parsed, only, lowered⟩
    exact ⟨(), ⟨visible, short⟩, parsed, only, lowered⟩

end Reading

end OrmCode
