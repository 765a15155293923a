import OrmCode.Proofs.Grammar.Inversion

/-!
# What kinds of expressions are read

Every form that a keyword announces is read as a negation, a call, a query or a text.  Only
a word that announces nothing is a column, and what an operator continues is neither a
column nor a constant.
-/

namespace OrmCode

namespace Sql

namespace Expr

/-- Whether an expression is read from a form of its own: a negation, a call, a query or a
text. -/
def isForm : Expr → Bool
  | not _ | call _ _ | subquery _ | other _ => true
  | _ => false

/-- Whether an expression is a form or a test, and no operand or computation. -/
def isTest : Expr → Bool
  | column _ | value _ | minus _ | nested _ | binary _ _ _ => false
  | _ => true

end Expr

/-- The words that constants are written as. -/
inductive IsConstantWord (dialect : Dialect) : String → Value → Prop
  | true (known : dialect.booleanLiterals = true) : IsConstantWord dialect "TRUE" (.boolean true)
  | false (known : dialect.booleanLiterals = true) : IsConstantWord dialect "FALSE" (.boolean false)
  | null : IsConstantWord dialect "NULL" .null

namespace Grammar

variable (grammar : Grammar)

/-- A reader yields a form. -/
def YieldsForm (reader : Reader Expr) : Prop :=
  Yields reader fun expression => expression.isForm = true

theorem yieldsForm_conditional : YieldsForm grammar.conditional := by
  refine .bind fun atOnce => ?_
  split
  · exact .bind fun _ => .bind fun _ => .bind fun _ => .bind fun _ => .bind fun _ => .pure rfl
  · exact .bind fun _ => .bind fun _ => .bind fun _ => .bind fun _ => .bind fun _ => .bind fun _ =>
      .bind fun _ => .pure rfl

theorem yieldsForm_cast (function : String) : YieldsForm (grammar.cast function) :=
  .bind fun _ => .bind fun _ => .bind fun _ => .bind fun _ => .bind fun _ => .bind fun _ =>
    .pure rfl

theorem yieldsForm_convert (function : String) : YieldsForm (grammar.convert function) := by
  unfold convert
  split
  · exact .bind fun _ => .bind fun _ => .bind fun _ => .bind fun _ => .bind fun _ => .bind fun _ =>
      .pure rfl
  · refine .bind fun _ => .bind fun _ => .bind fun spelled => ?_
    split
    · exact .bind fun _ => .bind fun _ => .pure rfl
    · exact .bind fun _ => .bind fun _ => .bind fun _ => .bind fun _ => .pure rfl

theorem yieldsForm_existence (negated : Bool) : YieldsForm (grammar.existence negated) :=
  .bind fun _ => .pure rfl

theorem yieldsForm_extraction : YieldsForm grammar.extraction := by
  refine .bind fun _ => .bind fun _ => .bind fun word => ?_
  split
  · exact .bind fun _ => .bind fun _ => .bind fun _ => .pure rfl
  · split
    · exact .bind fun _ => .bind fun _ => .bind fun _ => .bind fun _ => .pure rfl
    · exact .bind fun _ => .bind fun _ => .bind fun _ => .pure rfl

theorem yieldsForm_rounding (function : String) : YieldsForm (grammar.rounding function) := by
  refine .bind fun _ => .bind fun _ => .bind fun word => .bind fun comma => ?_
  split
  · exact .bind fun _ => .bind fun _ => .bind fun _ => .pure rfl
  · split
    · exact .bind fun _ => .bind fun _ => .bind fun _ => .pure rfl
    · exact .bind fun _ => .bind fun _ => .pure rfl

theorem yieldsForm_substring : YieldsForm grammar.substring :=
  .bind fun _ => .bind fun _ => .bind fun _ => .bind fun _ => .bind fun _ => .bind fun _ =>
    .bind fun _ => .pure rfl

theorem yieldsForm_overlay : YieldsForm grammar.overlay :=
  .bind fun _ => .bind fun _ => .bind fun _ => .bind fun _ => .bind fun _ => .bind fun _ =>
    .bind fun _ => .bind fun _ => .pure rfl

theorem yieldsForm_trimming : YieldsForm grammar.trimming := by
  refine .bind fun _ => .bind fun _ => .bind fun _ => .bind fun whole => ?_
  split
  · exact .bind fun _ => .bind fun _ => .pure rfl
  · exact .bind fun _ => .bind fun _ => .pure rfl

theorem yieldsForm_interval : YieldsForm grammar.interval := by
  unfold interval
  split
  · refine .bind fun amount => .bind fun field => ?_
    split
    · exact .bind fun _ => .pure rfl
    · exact .unexpected
  · refine .bind fun amount => .bind fun field => ?_
    split
    · exact .bind fun _ => .pure rfl
    · exact .pure rfl

theorem yieldsForm_array (lead : String) : YieldsForm (grammar.array lead) :=
  .bind fun _ => .bind fun _ => .pure rfl

theorem yieldsForm_fullText : YieldsForm grammar.fullText := by
  refine .bind fun _ => .bind fun _ => .bind fun _ => .bind fun _ => .bind fun _ => .bind fun _ =>
    .bind fun _ => .bind fun _ => ?_
  split <;> [skip; split <;> [skip; split <;> [skip; split]]] <;>
    exact .bind fun _ => .bind fun _ => .pure rfl

theorem yieldsForm_structured : YieldsForm grammar.structured := by
  refine .bind fun angle => ?_
  split
  · refine .bind fun _ => .bind fun (fields, closesTwo) => ?_
    cases closesTwo with
    | true => exact .bind fun _ => .bind fun _ => .pure rfl
    | false => exact .bind fun _ => .bind fun _ => .pure rfl
  · exact .bind fun _ => .bind fun _ => .pure rfl

theorem yieldsForm_arrayOfQuery (function : Name) : YieldsForm (grammar.arrayOfQuery function) :=
  .bind fun _ => .pure rfl

theorem yieldsForm_negated : YieldsForm grammar.negated := by
  refine .bind fun exists_ => ?_
  split
  · exact grammar.yieldsForm_existence true
  · exact .bind fun _ => .pure rfl

theorem yieldsForm_timeCall (function : Name) : YieldsForm (grammar.timeCall function) := by
  refine .bind fun opens => ?_
  split
  · exact .bind fun _ => .pure rfl
  · exact .pure rfl

theorem yieldsForm_callOf (function : QualifiedName) : YieldsForm (grammar.callOf function) := by
  refine .bind fun _ => .bind fun query => ?_
  split
  · exact .bind fun _ => .bind fun _ => .pure rfl
  · refine .bind fun _ => .bind fun again => ?_
    split
    · exact .bind fun _ => .bind fun _ => .pure rfl
    · exact .bind fun _ => .pure rfl

theorem yieldsForm_position (function : Name) : YieldsForm (grammar.position function) := by
  have special : YieldsForm (do
      Reader.expectSymbol "("
      let part ← grammar.expressionAbove grammar.levels.between
      Reader.expectKeyword "IN"
      let whole ← grammar.expressionText
      Reader.expectSymbol ")"
      return Expr.other ("POSITION" ++ parenthesized (part.write ++ " IN " ++ whole))) :=
    .bind fun _ => .bind fun _ => .bind fun _ => .bind fun _ => .bind fun _ => .pure rfl
  refine (Yields.attempt special).bind_of fun special? isForm => ?_
  cases special? with
  | some special => exact .pure (isForm special rfl)
  | none => exact grammar.yieldsForm_callOf [function]

/-- What a keyword announces: the constant that it is, or a form of its own. -/
def Announces (word : String) (form : Reader Expr) : Prop :=
  (∃ value, IsConstantWord grammar.dialect word value ∧ form = pure (.value value)) ∨
    YieldsForm form

theorem announces_of_announced? {word : String} {spelled : Name} {tokens rest : List Token}
    {form : Reader Expr} (read : Reads (grammar.announced? word spelled) tokens (some form) rest) :
    grammar.Announces word form := by
  have only : ∀ {condition : Bool} {announced : Reader Expr},
      (if condition then some announced else none) = some form →
        condition = true ∧ announced = form := by
    intro condition announced found
    cases condition <;> simp_all
  rw [announced?, Reads.bind_iff] at read
  obtain ⟨opens, _, -, read⟩ := read
  rw [Reads.bind_iff] at read
  obtain ⟨second?, _, -, read⟩ := read
  split at read <;> have found := congrArg Prod.fst (Except.ok.inj read)
  case h_1 =>
    obtain ⟨known, rfl⟩ := only found
    exact .inl ⟨_, .true known, rfl⟩
  case h_2 =>
    obtain ⟨known, rfl⟩ := only found
    exact .inl ⟨_, .false known, rfl⟩
  case h_3 => exact .inl ⟨_, .null, (Option.some.inj found).symm⟩
  case h_31 => cases found
  all_goals right
  case h_4 | h_5 | h_6 | h_7 => exact (only found).2 ▸ .pure rfl
  case h_8 | h_9 | h_10 | h_11 | h_12 => exact Option.some.inj found ▸ grammar.yieldsForm_timeCall _
  case h_13 => exact Option.some.inj found ▸ grammar.yieldsForm_conditional
  case h_14 => exact Option.some.inj found ▸ grammar.yieldsForm_convert _
  case h_15 => exact (only found).2 ▸ grammar.yieldsForm_convert _
  case h_16 | h_17 | h_18 => exact Option.some.inj found ▸ grammar.yieldsForm_cast _
  case h_19 => exact (only found).2 ▸ grammar.yieldsForm_existence _
  case h_20 => exact Option.some.inj found ▸ grammar.yieldsForm_extraction
  case h_21 | h_22 => exact Option.some.inj found ▸ grammar.yieldsForm_rounding _
  case h_23 => exact (only found).2 ▸ grammar.yieldsForm_position _
  case h_24 => exact Option.some.inj found ▸ grammar.yieldsForm_substring
  case h_25 => exact Option.some.inj found ▸ grammar.yieldsForm_overlay
  case h_26 => exact Option.some.inj found ▸ grammar.yieldsForm_trimming
  case h_27 => exact Option.some.inj found ▸ grammar.yieldsForm_interval
  case h_28 => exact Option.some.inj found ▸ grammar.yieldsForm_negated
  case h_29 => exact (only found).2 ▸ grammar.yieldsForm_fullText
  case h_30 => exact (only found).2 ▸ grammar.yieldsForm_structured

/-- A reader yields a form or a test. -/
def YieldsTest (reader : Reader Expr) : Prop :=
  Yields reader fun expression => expression.isTest = true

theorem yieldsTest_comparedWithMany (left : Expr) (operator : BinaryOperator) (word : String)
    (precedence : Nat) : YieldsTest (grammar.comparedWithMany left operator word precedence) := by
  refine .bind fun opened => .bind fun _ => .bind fun query => ?_
  split
  · split
    · exact .bind fun _ => .bind fun _ => .pure rfl
    · exact .bind fun _ => .bind fun _ => .bind fun _ => .pure rfl
  · split
    · exact .bind fun _ => .bind fun _ => .unexpected
    · exact .bind fun _ => .bind fun _ => .bind fun _ => .unexpected

theorem yieldsTest_isTest (left : Expr) : YieldsTest (grammar.isTest left) := by
  refine .bind fun _ => .bind fun null => ?_
  split
  · exact .pure rfl
  · refine .bind fun word? => ?_
    cases word? with
    | some word => exact .pure rfl
    | none => exact .bind fun _ => .bind fun _ => .pure rfl

theorem yieldsTest_membership (negated : Bool) (left : Expr) :
    YieldsTest (grammar.membership negated left) := by
  refine .bind fun unnest => ?_
  split
  · exact .bind fun _ => .pure rfl
  · refine .bind fun _ => .bind fun query => ?_
    split
    · exact .bind fun _ => .bind fun _ => .pure rfl
    · split
      · exact .bind fun _ => .bind fun _ => .pure rfl
      · exact .bind fun _ => .bind fun _ => .pure rfl

theorem yieldsTest_range (negated : Bool) (left : Expr) : YieldsTest (grammar.range negated left) :=
  .bind fun _ => .bind fun _ => .bind fun _ => .pure rfl

theorem yieldsTest_likeTest (kind : PatternKind) (negated : Bool) (left : Expr) :
    YieldsTest (grammar.likeTest kind negated left) :=
  .bind fun _ => .bind fun _ => .bind fun _ => .pure rfl

theorem yieldsTest_negatableTest (left : Expr) : YieldsTest (grammar.negatableTest left) := by
  refine .bind fun negated => .bind fun word? => ?_
  split
  · exact grammar.yieldsTest_membership negated left
  · exact grammar.yieldsTest_range negated left
  · exact grammar.yieldsTest_likeTest .like negated left
  · exact grammar.yieldsTest_likeTest .ilike negated left
  · exact .bind fun _ => .pure rfl
  · exact .bind fun _ => .bind fun _ => .bind fun _ => .pure rfl

theorem yieldsTest_tested (left : Expr) (precedence : Nat) :
    YieldsTest (grammar.tested left precedence) := by
  refine .bind fun token => ?_
  split
  · exact .bind fun _ => .pure rfl
  · split
    · exact .pure rfl
    · exact .unexpected
  · exact .bind fun _ => .pure rfl
  · exact .bind fun _ => .pure rfl
  · split
    · exact grammar.yieldsTest_isTest left
    · exact .bind fun _ => .bind fun _ => .pure rfl
    · exact .bind fun _ => .pure rfl
    · exact .unexpected

/-- No symbol but its own stands for a sum or a difference. -/
theorem eq_write_of_symbolOperator? {text : String} {operator : BinaryOperator}
    (found : grammar.symbolOperator? text = some operator)
    (sum : operator = .plus ∨ operator = .minus) : text = operator.write := by
  revert found
  fun_cases symbolOperator? grammar text <;> rcases sum with rfl | rfl <;>
    simp [BinaryOperator.write]

/-- Sums and differences are computed by their signs only. -/
theorem eq_symbol_of_binaryOperator? {tokens rest : List Token} {operator : BinaryOperator}
    (read : Reads grammar.binaryOperator? tokens (some operator) rest)
    (sum : operator = .plus ∨ operator = .minus) : tokens = .symbol operator.write :: rest := by
  have skipped : ∀ {found : BinaryOperator},
      Reads (do Reader.skip 1; return some found) tokens (some operator) rest →
        operator = found ∧ rest = tokens.tail := by
    intro found read
    rw [Reads.bind_iff] at read
    simp only [Reads.skip_one_iff, Reads.pure_iff] at read
    obtain ⟨_, _, rfl, same, rfl⟩ := read
    exact ⟨Option.some.inj same, rfl⟩
  rw [binaryOperator?, Reads.bind_iff] at read
  simp only [Reads.peek?_iff] at read
  obtain ⟨_, _, ⟨rfl, rfl⟩, read⟩ := read
  split at read
  · next text first =>
      obtain ⟨others, rfl⟩ := List.head?_eq_some_iff.mp first
      split at read
      · next found =>
          obtain ⟨rfl, rfl⟩ := skipped read
          rw [← grammar.eq_write_of_symbolOperator? found sum]
      · cases read
  · simp [skipped read] at sum
  · split at read
    · simp [skipped read] at sum
    · simp [skipped read] at sum
    · simp [skipped read] at sum
    · split at read
      · rw [Reads.bind_iff] at read
        obtain ⟨_, _, -, read⟩ := read
        rw [Reads.bind_iff] at read
        simp only [Reads.pure_iff, Option.some.injEq] at read
        obtain ⟨_, _, -, rfl, -⟩ := read
        simp at sum
      · cases read
    · cases read
  · cases read

/-- What an operator continues is a form, a test or computed by the operator. -/
theorem cases_of_reads_continued {left expression : Expr} {precedence : Nat}
    {tokens rest : List Token}
    (read : Reads (grammar.continued left precedence) tokens expression rest) :
    expression.isTest = true ∨ ∃ operator right, expression = .binary operator left right ∧
      (operator = .plus ∨ operator = .minus →
        ∃ middle, tokens = .symbol operator.write :: middle ∧
          Reads (grammar.expressionAbove precedence) middle right rest) := by
  rw [continued, Reads.bind_iff] at read
  obtain ⟨division, start, asked, read⟩ := read
  split at read
  · rw [Reads.bind_iff] at read
    simp only [Reads.pure_iff] at read
    obtain ⟨right, _, -, rfl, -⟩ := read
    exact .inr ⟨_, right, rfl, by simp⟩
  · next notDivision =>
      rw [Bool.not_eq_true] at notDivision
      rw [notDivision] at asked
      obtain rfl := Reads.eq_of_denied asked
      rw [Reads.bind_iff] at read
      obtain ⟨operator?, middle, found, read⟩ := read
      split at read
      · next operator =>
          rw [Reads.bind_iff] at read
          obtain ⟨many?, after, asked, read⟩ := read
          split at read
          · exact .inl (grammar.yieldsTest_comparedWithMany _ _ _ _ _ _ _ read)
          · obtain rfl := Reads.eq_of_oneOf? asked
            rw [Reads.bind_iff] at read
            simp only [Reads.pure_iff] at read
            obtain ⟨right, _, readRight, rfl, rfl⟩ := read
            exact .inr ⟨operator, right, rfl, fun sum =>
              ⟨_, grammar.eq_symbol_of_binaryOperator? found sum, readRight⟩⟩
      · rw [Reads.bind_iff] at read
        obtain ⟨negatable, after, asked, read⟩ := read
        split at read
        · exact .inl (grammar.yieldsTest_negatableTest _ _ _ _ read)
        · exact .inl (grammar.yieldsTest_tested _ _ _ _ _ read)

end Grammar

end Sql

end OrmCode
