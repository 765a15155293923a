import OrmCode.Proofs.Grammar.Kind

/-!
# What operands are read from

An operand that is no form is read from tokens of its own: a name, a constant, a minus sign
or a pair of parentheses.  A sum whose left side is a column is that column, the sign and
the right side, one after the other.
-/

namespace OrmCode

namespace Sql

namespace Grammar

variable (grammar : Grammar) {tokens rest : List Token} {expression : Expr}

theorem cases_of_reads_continued? {least : Nat} {left : Expr} {continued? : Option Expr}
    (read : Reads (grammar.continued? least left) tokens continued? rest) :
    (continued? = none ∧ rest = tokens) ∨ ∃ continued precedence, continued? = some continued ∧
      Reads (grammar.continued left precedence) tokens continued rest := by
  rw [Grammar.continued?, Reads.bind_iff] at read
  simp only [Reads.rest_iff] at read
  obtain ⟨_, _, ⟨rfl, rfl⟩, read⟩ := read
  split at read
  · exact .inl (Reads.pure_iff.mp read)
  · rw [Reads.bind_iff] at read
    simp only [Reads.pure_iff] at read
    obtain ⟨continued, _, read, rfl, rfl⟩ := read
    exact .inr ⟨continued, _, rfl, read⟩

/-- An expression is an operand, or an operator continues another expression to it. -/
theorem cases_of_reads_readExpression {least : Nat}
    (read : Reads (grammar.readExpression least) tokens expression rest) :
    Reads grammar.operand tokens expression rest ∨ ∃ left middle precedence,
      (Reads grammar.operand tokens left middle ∨ ∃ first start precedence,
        Reads (grammar.continued first precedence) start left middle) ∧
      Reads (grammar.continued left precedence) middle expression rest := by
  rw [readExpression, Reads.bind_iff] at read
  obtain ⟨first, after, operand, read⟩ := read
  rw [Reader.iterate, Reads.bind_iff] at read
  simp only [Reads.rest_iff] at read
  obtain ⟨_, _, ⟨rfl, rfl⟩, read⟩ := read
  have stops : ∀ {left : Expr} {tokens rest : List Token},
      Reads (grammar.continued? least left) tokens none rest → rest = tokens := by
    intro left tokens rest read
    rcases grammar.cases_of_reads_continued? read with ⟨-, same⟩ | ⟨_, _, ⟨⟩, -⟩
    exact same
  have continues : ∀ {left result : Expr} {tokens rest : List Token},
      Reads (grammar.continued? least left) tokens (some result) rest →
        ∃ precedence, Reads (grammar.continued left precedence) tokens result rest := by
    intro left result tokens rest read
    rcases grammar.cases_of_reads_continued? read with ⟨⟨⟩, -⟩ | ⟨_, precedence, ⟨⟩, read⟩
    exact ⟨precedence, read⟩
  rcases Reads.cases_of_iterateWithin read stops with ⟨rfl, rfl⟩ | ⟨left, middle, before, last⟩
  · exact .inl operand
  · obtain ⟨precedence, last⟩ := continues last
    refine .inr ⟨left, middle, precedence, ?_, last⟩
    rcases before with ⟨rfl, rfl⟩ | ⟨first, start, before⟩
    · exact .inl operand
    · obtain ⟨precedence, before⟩ := continues before
      exact .inr ⟨first, start, precedence, before⟩

theorem yieldsForm_typedString? :
    Yields grammar.typedString? fun typed? => ∀ typed ∈ typed?, typed.isForm = true := by
  refine .attempt (.bind fun type => ?_)
  split
  · exact .unexpected
  · split
    · exact grammar.yieldsForm_interval
    · exact .bind fun _ => .pure rfl

/-- An operand that is no form is read without a collation behind it. -/
theorem cases_of_reads_operand (read : Reads grammar.operand tokens expression rest) :
    expression.isForm = true ∨ Reads grammar.bareOperand tokens expression rest := by
  rw [operand, Reads.bind_iff] at read
  obtain ⟨typed?, start, typed, read⟩ := read
  split at read
  · next form =>
      obtain ⟨rfl, -⟩ := Reads.pure_iff.mp read
      exact .inl (grammar.yieldsForm_typedString? _ _ _ typed _ rfl)
  · obtain rfl := Reads.eq_of_attempt typed
    rw [Reads.bind_iff] at read
    obtain ⟨bare, middle, bareRead, read⟩ := read
    rw [Reads.bind_iff] at read
    obtain ⟨collated, after, asked, read⟩ := read
    split at read
    · rw [Reads.bind_iff] at read
      simp only [Reads.pure_iff] at read
      obtain ⟨_, _, -, rfl, -⟩ := read
      exact .inl rfl
    · next notCollated =>
        rw [Bool.not_eq_true] at notCollated
        subst notCollated
        obtain rfl := Reads.eq_of_denied asked
        obtain ⟨rfl, rfl⟩ := Reads.pure_iff.mp read
        exact .inr bareRead

/-- The first part of a name stands for a column, unless it starts a form. -/
theorem cases_of_reads_columnOrCall {first : Name}
    (read : Reads (grammar.columnOrCall first) tokens expression rest) :
    expression.isForm = true ∨ ∃ others fuel, expression = .column (first :: others) ∧
      Reads (grammar.nameParts fuel) tokens (others, false) rest := by
  rw [columnOrCall, Reads.bind_iff] at read
  simp only [Reads.rest_iff] at read
  obtain ⟨_, _, ⟨rfl, rfl⟩, read⟩ := read
  rw [Reads.bind_iff] at read
  obtain ⟨⟨others, wildcard⟩, middle, parts, read⟩ := read
  cases wildcard with
  | true =>
      obtain ⟨rfl, -⟩ := Reads.pure_iff.mp read
      exact .inl rfl
  | false =>
      rw [if_neg Bool.false_ne_true, Reads.bind_iff] at read
      obtain ⟨opens, start, asked, read⟩ := read
      obtain ⟨-, rfl⟩ := Reads.nextIs_iff.mp asked
      split at read
      · rw [Reads.bind_iff] at read
        obtain ⟨_, _, -, read⟩ := read
        split at read
        · rw [Reads.bind_iff] at read
          simp only [Reads.pure_iff] at read
          obtain ⟨_, _, -, rfl, -⟩ := read
          exact .inl rfl
        · exact .inl (grammar.yieldsForm_callOf _ _ _ _ read)
      · obtain ⟨rfl, rfl⟩ := Reads.pure_iff.mp read
        exact .inr ⟨others, _, rfl, parts⟩

theorem cases_of_reads_plainWord {first : Name}
    (read : Reads (grammar.plainWord first) tokens expression rest) :
    expression.isForm = true ∨ ∃ others fuel, expression = .column (first :: others) ∧
      Reads (grammar.nameParts fuel) tokens (others, false) rest := by
  rw [plainWord, Reads.bind_iff] at read
  simp only [Reads.nextIs_iff] at read
  obtain ⟨_, _, ⟨rfl, rfl⟩, read⟩ := read
  split at read
  · exact grammar.cases_of_reads_columnOrCall read
  · next plain =>
      rw [Reads.bind_iff] at read
      obtain ⟨introduced, start, asked, read⟩ := read
      split at read
      · rw [Grammar.introduced, Reads.bind_iff] at read
        simp only [Reads.pure_iff] at read
        obtain ⟨_, _, -, rfl, -⟩ := read
        exact .inl rfl
      · next notIntroduced =>
          obtain rfl := Reads.eq_of_asked asked
          rw [Reads.bind_iff] at read
          obtain ⟨arrow, start, asked, read⟩ := read
          split at read
          · rw [Reads.bind_iff] at read
            simp only [Reads.pure_iff] at read
            obtain ⟨_, _, -, rfl, -⟩ := read
            exact .inl rfl
          · next noArrow =>
              rw [Bool.not_eq_true] at noArrow
              subst noArrow
              obtain rfl := Reads.eq_of_denied asked
              obtain ⟨rfl, rfl⟩ := Reads.pure_iff.mp read
              have noPeriod : rest.head?.any (Token.isSymbol ".") = false := by
                cases rest <;> simp_all
              have none : Reads (grammar.nameParts 1) rest ([], false) rest :=
                (Reads.symbol_iff.mpr (.inr ⟨rfl, noPeriod, rfl⟩)).bind rfl
              exact .inr ⟨[], 1, rfl, none⟩

theorem eq_of_announced? {word : String} {spelled : Name} {form? : Option (Reader Expr)}
    (read : Reads (grammar.announced? word spelled) tokens form? rest) : rest = tokens := by
  rw [announced?, Reads.bind_iff] at read
  obtain ⟨_, _, first, read⟩ := read
  obtain ⟨-, rfl⟩ := Reads.nextIs_iff.mp first
  rw [Reads.bind_iff] at read
  obtain ⟨_, _, second, read⟩ := read
  cases second
  cases read
  rfl

/-- An array is a form of its own. -/
theorem cases_of_reads_arrayForm? {spelled : Name} {form? : Option (Reader Expr)}
    (read : Reads (grammar.arrayForm? spelled) tokens form? rest) :
    rest = tokens ∧ ∀ form ∈ form?, YieldsForm form := by
  rw [arrayForm?, Reads.bind_iff] at read
  obtain ⟨_, _, first, read⟩ := read
  obtain ⟨-, rfl⟩ := Reads.nextIs_iff.mp first
  split at read
  · obtain ⟨rfl, rfl⟩ := Reads.pure_iff.mp read
    refine ⟨rfl, ?_⟩
    rintro _ ⟨⟩
    exact .bind fun _ => grammar.yieldsForm_array _
  · rw [Reads.bind_iff] at read
    obtain ⟨_, _, asked, read⟩ := read
    obtain rfl := Reads.eq_of_asked asked
    split at read
    · obtain ⟨rfl, rfl⟩ := Reads.pure_iff.mp read
      refine ⟨rfl, ?_⟩
      rintro _ ⟨⟩
      exact grammar.yieldsForm_arrayOfQuery _
    · obtain ⟨rfl, rfl⟩ := Reads.pure_iff.mp read
      exact ⟨rfl, nofun⟩

/-- What is read one way or else another is read one of these ways. -/
theorem cases_of_reads_orElse {first second : Reader Expr}
    (read : Reads (orElse first second) tokens expression rest) :
    Reads first tokens expression rest ∨ Reads second tokens expression rest := by
  unfold Reads orElse at *
  rw [StateT.run] at read
  split at read
  · next found =>
      cases read
      exact .inl found
  · split at read
    · next found =>
        cases read
        exact .inr found
    · cases read

/-- A keyword is a bare word that is spelled by the same capitals. -/
theorem eq_capitals_of_keyword? {text word : String} {quote? : Option Char}
    (spelled : (Token.word text quote?).keyword? = some word) :
    quote? = none ∧ word = Text.capitals text := by
  cases quote? with
  | none =>
      simp only [Token.keyword?] at spelled
      split at spelled
      · exact ⟨rfl, (Option.some.inj spelled).symm⟩
      · cases spelled
  | some quote => cases spelled

/-- Whatever a word announces, it is read so or as a plain word. -/
theorem cases_of_reads_announced {text word : String} {quote? : Option Char}
    {form? : Option (Reader Expr)} (spelled : quote? = none ∧ word = Text.capitals text)
    (announces : ∀ form ∈ form?, grammar.Announces word form)
    (read : Reads (match form? with
      | none => grammar.plainWord ⟨text, quote?⟩
      | some form => if grammar.isReserved word then form
        else orElse form (grammar.plainWord ⟨text, quote?⟩)) tokens expression rest) :
    expression.isForm = true ∨
      (∃ value, quote? = none ∧ IsConstantWord grammar.dialect (Text.capitals text) value ∧
        expression = .value value ∧ rest = tokens) ∨
      ∃ others fuel, expression = .column (⟨text, quote?⟩ :: others) ∧
        Reads (grammar.nameParts fuel) tokens (others, false) rest := by
  cases form? with
  | none => exact (grammar.cases_of_reads_plainWord read).imp_right .inr
  | some form =>
      have either : Reads form tokens expression rest ∨
          Reads (grammar.plainWord ⟨text, quote?⟩) tokens expression rest := by
        dsimp only at read
        split at read
        · exact .inl read
        · exact cases_of_reads_orElse read
      rcases either with read | read
      · rcases announces form rfl with ⟨value, constant, rfl⟩ | yields
        · exact .inr (.inl ⟨value, spelled.1, spelled.2 ▸ constant, Reads.pure_iff.mp read⟩)
        · exact .inl (yields _ _ _ read)
      · exact (grammar.cases_of_reads_plainWord read).imp_right .inr

/-- A word is a column or a constant, unless it starts a form. -/
theorem cases_of_reads_wordOperand {text : String} {quote? : Option Char}
    (read : Reads (grammar.wordOperand (.word text quote?) ⟨text, quote?⟩) tokens expression rest) :
    expression.isForm = true ∨
      (∃ value, quote? = none ∧ IsConstantWord grammar.dialect (Text.capitals text) value ∧
        expression = .value value ∧ rest = tokens) ∨
      ∃ others fuel, expression = .column (⟨text, quote?⟩ :: others) ∧
        Reads (grammar.nameParts fuel) tokens (others, false) rest := by
  unfold wordOperand at read
  split at read
  · exact (grammar.cases_of_reads_plainWord read).imp_right .inr
  · next word spelled =>
      have capitals := eq_capitals_of_keyword? spelled
      by_cases array : word = "ARRAY"
      · rw [if_pos array, Reads.bind_iff] at read
        obtain ⟨form?, start, announced, read⟩ := read
        obtain ⟨rfl, forms⟩ := grammar.cases_of_reads_arrayForm? announced
        exact grammar.cases_of_reads_announced capitals
          (fun form member => .inr (forms form member)) read
      · rw [if_neg array, Reads.bind_iff] at read
        obtain ⟨form?, start, announced, read⟩ := read
        obtain rfl := grammar.eq_of_announced? announced
        refine grammar.cases_of_reads_announced capitals ?_ read
        rintro form ⟨⟩
        exact grammar.announces_of_announced? announced

/-- What an operand is read from that is no form. -/
inductive ReadsOperand : List Token → Expr → List Token → Prop
  | column {text : String} {quote? : Option Char} {others : List Name} {fuel : Nat}
      {after rest : List Token}
      (parts : Reads (grammar.nameParts fuel) after (others, false) rest) :
    ReadsOperand (.word text quote? :: after) (.column (⟨text, quote?⟩ :: others)) rest
  | constant {text : String} {value : Value} (rest : List Token)
      (isConstant : IsConstantWord grammar.dialect (Text.capitals text) value) :
    ReadsOperand (.word text none :: rest) (.value value) rest
  | number (numeral : String) (long : Bool) (rest : List Token) :
    ReadsOperand (.number numeral long :: rest) (.value (.number numeral long)) rest
  | string (form : StringForm) (text : String) (rest : List Token) :
    ReadsOperand (.string form text :: rest) (.value (.string form text)) rest
  | placeholder (tokens : List Token) (text : String) (rest : List Token) :
    ReadsOperand tokens (.value (.placeholder text)) rest
  | minus {inner : Expr} {after rest : List Token}
      (read : Reads (grammar.expressionAbove grammar.levels.product) after inner rest) :
    ReadsOperand (.symbol "-" :: after) (.minus inner) rest
  | nested {inner : Expr} {after rest : List Token}
      (read : Reads (grammar.list grammar.expression) after [inner] (.symbol ")" :: rest)) :
    ReadsOperand (.symbol "(" :: after) (.nested inner) rest

theorem cases_of_reads_parenthesizedContent
    (read : Reads grammar.parenthesizedContent tokens expression rest) :
    expression.isForm = true ∨ ∃ inner, expression = .nested inner ∧
      Reads (grammar.list grammar.expression) tokens [inner] rest := by
  rw [parenthesizedContent, Reads.bind_iff] at read
  obtain ⟨query, start, asked, read⟩ := read
  obtain ⟨-, rfl⟩ := Reads.nextIs_iff.mp asked
  split at read
  · rw [Reads.bind_iff] at read
    simp only [Reads.pure_iff] at read
    obtain ⟨_, _, -, rfl, -⟩ := read
    exact .inl rfl
  · rw [Reads.bind_iff] at read
    obtain ⟨items, middle, listed, read⟩ := read
    split at read
    · obtain ⟨rfl, rfl⟩ := Reads.pure_iff.mp read
      exact .inr ⟨_, rfl, listed⟩
    · obtain ⟨rfl, -⟩ := Reads.pure_iff.mp read
      exact .inl rfl

theorem yieldsForm_lambda? :
    Yields grammar.lambda? fun form? => ∀ form ∈ form?, form.isForm = true := by
  unfold lambda?
  split
  · exact .attempt (.bind fun _ => .bind fun _ => .bind fun _ => .bind fun _ => .pure rfl)
  · exact .pure nofun

theorem eq_of_lambda? (read : Reads grammar.lambda? tokens none rest) : rest = tokens := by
  unfold lambda? at read
  split at read
  · exact Reads.eq_of_attempt read
  · exact (Reads.pure_iff.mp read).2

theorem cases_of_reads_group (read : Reads grammar.group tokens expression rest) :
    expression.isForm = true ∨ ∃ inner, expression = .nested inner ∧
      Reads (grammar.list grammar.expression) tokens [inner] (.symbol ")" :: rest) := by
  rw [group, Reads.bind_iff] at read
  obtain ⟨lambda?, start, lambda, read⟩ := read
  split at read
  · obtain ⟨rfl, -⟩ := Reads.pure_iff.mp read
    exact .inl (grammar.yieldsForm_lambda? _ _ _ lambda _ rfl)
  · obtain rfl := grammar.eq_of_lambda? lambda
    rw [Reads.bind_iff] at read
    obtain ⟨content, middle, inside, read⟩ := read
    rw [Reads.bind_iff] at read
    simp only [Reads.expectSymbol_iff] at read
    obtain ⟨_, closed, rfl, read⟩ := read
    rw [Reads.bind_iff] at read
    obtain ⟨period, after, asked, read⟩ := read
    split at read
    · rw [Reads.bind_iff] at read
      obtain ⟨_, _, -, read⟩ := read
      split at read
      · obtain ⟨rfl, -⟩ := Reads.pure_iff.mp read
        exact .inl rfl
      · cases read
    · next noPeriod =>
        obtain ⟨rfl, rfl⟩ := Reads.pure_iff.mp read
        rcases Reads.symbol_iff.mp asked with ⟨rfl, -⟩ | ⟨-, -, rfl⟩
        · exact absurd rfl noPeriod
        · exact grammar.cases_of_reads_parenthesizedContent inside

theorem cases_of_reads_symbolOperand {sign : String}
    (read : Reads (grammar.symbolOperand sign) tokens expression rest) :
    expression.isForm = true ∨ grammar.ReadsOperand (.symbol sign :: tokens) expression rest := by
  unfold symbolOperand at read
  split at read
  · exact .inl (grammar.yieldsForm_array _ _ _ _ read)
  · rw [Reads.bind_iff] at read
    simp only [Reads.pure_iff] at read
    obtain ⟨inner, _, read, rfl, rfl⟩ := read
    exact .inr (.minus read)
  · rw [Reads.bind_iff] at read
    simp only [Reads.pure_iff] at read
    obtain ⟨inner, _, read, rfl, rfl⟩ := read
    exact .inl rfl
  · rcases grammar.cases_of_reads_group read with form | ⟨inner, rfl, listed⟩
    · exact .inl form
    · exact .inr (.nested listed)
  all_goals
    split at read
    · rw [Reads.bind_iff] at read
      simp only [Reads.pure_iff] at read
      obtain ⟨inner, _, read, rfl, rfl⟩ := read
      exact .inl rfl
    · cases read

theorem cases_of_reads_bareOperand (read : Reads grammar.bareOperand tokens expression rest) :
    expression.isForm = true ∨ grammar.ReadsOperand tokens expression rest := by
  rw [bareOperand, Reads.bind_iff] at read
  simp only [Reads.next_iff] at read
  obtain ⟨token, after, rfl, read⟩ := read
  split at read
  · next text quote? =>
      rcases grammar.cases_of_reads_wordOperand read with
        form | ⟨value, rfl, constant, rfl, rfl⟩ | ⟨others, fuel, rfl, parts⟩
      · exact .inl form
      · exact .inr (.constant _ constant)
      · exact .inr (.column parts)
  · obtain ⟨rfl, rfl⟩ := Reads.pure_iff.mp read
    exact .inr (.number _ _ _)
  · split at read
    · obtain ⟨rfl, rfl⟩ := Reads.pure_iff.mp read
      exact .inr (.string _ _ _)
    · cases read
  · obtain ⟨rfl, rfl⟩ := Reads.pure_iff.mp read
    exact .inr (.string _ _ _)
  · obtain ⟨rfl, rfl⟩ := Reads.pure_iff.mp read
    exact .inr (.placeholder _ _ _)
  · split at read
    · rw [Reads.bind_iff] at read
      obtain ⟨_, _, -, read⟩ := read
      split at read
      · obtain ⟨rfl, rfl⟩ := Reads.pure_iff.mp read
        exact .inr (.placeholder _ _ _)
      · obtain ⟨rfl, rfl⟩ := Reads.pure_iff.mp read
        exact .inr (.placeholder _ _ _)
      · cases read
    · exact grammar.cases_of_reads_symbolOperand read
  · cases read

/-- An operand is a form, or it is read from its own tokens. -/
theorem readsOperand_of_operand (read : Reads grammar.operand tokens expression rest)
    (noForm : expression.isForm = false) : grammar.ReadsOperand tokens expression rest := by
  rcases grammar.cases_of_reads_operand read with form | bare
  · simp [form] at noForm
  · rcases grammar.cases_of_reads_bareOperand bare with form | operand
    · simp [form] at noForm
    · exact operand

/-- What is neither a form nor a test nor computed by an operator is an operand. -/
theorem readsOperand_of_reads {least : Nat}
    (read : Reads (grammar.readExpression least) tokens expression rest)
    (noForm : expression.isForm = false) (noTest : expression.isTest = false)
    (alone : ∀ operator left right, expression ≠ .binary operator left right) :
    grammar.ReadsOperand tokens expression rest := by
  rcases grammar.cases_of_reads_readExpression read with operand | ⟨left, _, _, -, continued⟩
  · exact grammar.readsOperand_of_operand operand noForm
  · rcases grammar.cases_of_reads_continued continued with test | ⟨operator, right, same, -⟩
    · simp [test] at noTest
    · exact absurd same (alone operator left right)

/-- A sum or difference whose left side is a column is read from left to right. -/
theorem reads_of_sum {least : Nat} {operator : BinaryOperator} {name : QualifiedName} {right : Expr}
    (read : Reads (grammar.readExpression least) tokens
      (.binary operator (.column name) right) rest)
    (sum : operator = .plus ∨ operator = .minus) :
    ∃ middle precedence,
      Reads grammar.operand tokens (.column name) (.symbol operator.write :: middle) ∧
        Reads (grammar.expressionAbove precedence) middle right rest := by
  rcases grammar.cases_of_reads_readExpression read with operand | ⟨left, _, _, before, continued⟩
  · cases grammar.readsOperand_of_operand operand rfl
  · rcases grammar.cases_of_reads_continued continued with test | ⟨_, _, same, steps⟩
    · cases test
    · cases same
      obtain ⟨middle, rfl, readRight⟩ := steps sum
      rcases before with operand | ⟨_, _, _, continued⟩
      · exact ⟨middle, _, operand, readRight⟩
      · -- The left side would itself be made by an operator.
        rcases grammar.cases_of_reads_continued continued with test | ⟨_, _, same, -⟩
        · cases test
        · cases same

end Grammar

end Sql

end OrmCode
