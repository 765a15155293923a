import OrmCode.Proofs.Grammar.Held
import OrmCode.Proofs.Grammar.Sign

/-!
# Changes of a column

A bare name before a sign and a constant is read as the change of the column, unless the name
is a word that is an operand of its own.
-/

namespace OrmCode

namespace Sql

open Grammar

variable {dialect : Dialect} {amount : Literal} {used : List Token} {column : String}

theorem exists_operator (grammar : Grammar) (change : Change) : ∃ operator : BinaryOperator,
    Lowering.change operator = .ok change ∧
      grammar.symbolOperator? change.symbol = some operator := by
  cases change with
  | addition => exact ⟨.plus, rfl, rfl⟩
  | subtraction => exact ⟨.minus, rfl, rfl⟩

/-- No word for any or all of several values starts a constant. -/
theorem reads_oneOf?_of_constant (constant : ConstantTokens dialect amount used) :
    Reads (Reader.oneOf? ["ANY", "ALL", "SOME"]) used none used := by
  have noWord : ∀ {text capitals : String}, Text.capitals text = capitals →
      capitals ∉ ["ANY", "ALL", "SOME"] →
      ∀ word ∈ ["ANY", "ALL", "SOME"], (Token.word text none).isKeyword word = false := by
    intro text capitals spelled apart word member
    rw [Token.isKeyword, spelled, beq_eq_false_iff_ne]
    rintro rfl
    exact apart member
  cases constant with
  | true _ spelled => exact Reads.oneOf?_of_ne (noWord spelled (by decide)) _
  | false _ spelled => exact Reads.oneOf?_of_ne (noWord spelled (by decide)) _
  | null spelled => exact Reads.oneOf?_of_ne (noWord spelled (by decide)) _
  | _ => exact Reads.oneOf?_of_ne (fun _ _ => rfl) _

/-- An operator for a sum goes on with the constant behind it. -/
theorem reads_continued?_of_sign {grammar : Grammar} {left right : Expr} {operator : BinaryOperator}
    {change : Change} (constant : ConstantTokens dialect amount used)
    (found : grammar.symbolOperator? change.symbol = some operator)
    (read : Reads (grammar.expressionAbove grammar.levels.sum) used right []) :
    Reads (grammar.continued? 0 left) (.symbol change.symbol :: used)
      (some (.binary operator left right)) [] := by
  have ends := endsOperand_symbol change used
  have precedence : grammar.precedenceOf (.symbol change.symbol :: used) = grammar.levels.sum := by
    cases change <;> rfl
  have binds : ¬grammar.levels.sum ≤ 0 := by
    unfold levels Precedences.ofDialect
    split <;> decide
  have noDivision : Reads (Reader.onlyIf (grammar.dialect = .mysql) (Reader.keyword "DIV"))
      (.symbol change.symbol :: used) false (.symbol change.symbol :: used) :=
    (ends.keyword "DIV").onlyIf_of_denied _
  have operators : Reads grammar.binaryOperator? (.symbol change.symbol :: used) (some operator)
      used := by
    refine (Reads.peek? _).bind ?_
    rw [List.head?_cons]
    dsimp only
    rw [found]
    rfl
  refine (Reads.rest _).bind ?_
  rw [precedence, if_neg binds]
  refine Reads.bind (noDivision.bind ?_) rfl
  rw [if_neg Bool.false_ne_true]
  exact operators.bind ((reads_oneOf?_of_constant constant).bind (Reads.bind read rfl))

section Changed

variable (depth : Nat) (constant : ConstantTokens dialect amount used) (change : Change)
  (scope : Lowering.Scope)

include constant

/-- A column before a sign and a constant is read as the change of the column. -/
theorem reads_changed (plain : dialect.isOperandWord (Text.capitals column) = false) :
    ∃ expression,
      Reads ((level dialect (depth + 4) false).expression 0)
        (.word column none :: .symbol change.symbol :: used) expression [] ∧
      Lowering.assignedValue scope expression = .ok (.changed column change amount) := by
  have operand := reads_operand_of_plain depth constant change plain
  obtain ⟨operator, made, found⟩ := exists_operator (dialect.grammar (depth + 3)) change
  obtain ⟨right, literal, read⟩ := reads_constant (depth + 1) constant
    (dialect.grammar (depth + 3)).levels.sum
  have continued : Reads ((dialect.grammar (depth + 3)).continued? 0 (.column [⟨column, none⟩]))
      (.symbol change.symbol :: used)
      (some (.binary operator (.column [⟨column, none⟩]) right)) [] :=
    reads_continued?_of_sign constant found read
  have stops : ∀ left, Reads ((dialect.grammar (depth + 3)).continued? 0 left) [] none [] :=
    fun left => rfl
  have iterated : Reads
      (Reader.iterate ((dialect.grammar (depth + 3)).continued? 0) (.column [⟨column, none⟩]))
      (.symbol change.symbol :: used) (.binary operator (.column [⟨column, none⟩]) right) [] := by
    refine (Reads.rest _).bind (continued.bind ?_)
    dsimp only
    cases used with
    | nil => cases constant
    | cons first others => exact (stops _).bind rfl
  refine ⟨_, Reads.bind operand iterated, ?_⟩
  show (do
    let column ← scope.resolve [⟨column, none⟩]
    let amount ← Lowering.literal right
    return AssignedValue.changed column (← Lowering.change operator) amount) = _
  rw [literal, made]
  rfl

/-- A word that is an operand of its own is no column that could be changed. -/
theorem not_changed_of_operandWord (own : dialect.isOperandWord (Text.capitals column) = true)
    {expression : Expr} {rest : List Token} {name : String} {made : Change} {value : Literal}
    (read : Reads ((level dialect (depth + 4) false).expression 0)
      (.word column none :: .symbol change.symbol :: used) expression rest) :
    Lowering.assignedValue scope expression ≠ .ok (.changed name made value) := by
  intro changes
  obtain ⟨operator, name, right, rfl, sum, -⟩ := Lowering.eq_binary_of_assignedValue changes
  obtain ⟨middle, precedence, named, -⟩ := Grammar.reads_of_sum _ read sum
  exact not_column_of_operandWord depth constant change own named

end Changed

end Sql

end OrmCode
