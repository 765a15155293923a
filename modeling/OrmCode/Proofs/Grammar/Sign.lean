import OrmCode.Lowering.Constant
import OrmCode.Proofs.Grammar.Word
import OrmCode.Proofs.Scan.Constant

/-!
# Words and constants around a sign

A constant is read from its tokens.  Before a sign and a constant a bare word is a column,
unless it is a word that is an operand of its own.
-/

namespace OrmCode

namespace Sql

/-- The grammar of a dialect with `depth` levels below it. -/
def Dialect.grammar (dialect : Dialect) (depth : Nat) : Grammar :=
  { dialect, inColumn := false, deeper := level dialect depth }

/-- The words that are operands of their own before a sign, and no columns. -/
def Dialect.isOperandWord (dialect : Dialect) : String → Bool
  | "TRUE" | "FALSE" => dialect.booleanLiterals
  | "CURRENT_CATALOG" | "CURRENT_USER" | "SESSION_USER" | "USER" =>
    dialect.isAmong [.postgresql, .generic]
  | "EXISTS" => dialect ≠ .databricks
  | "STRUCT" => dialect.isAmong [.bigquery, .databricks, .generic]
  | "NULL" | "NOT" | "INTERVAL" | "CURRENT_TIMESTAMP" | "CURRENT_TIME" | "CURRENT_DATE"
  | "LOCALTIME" | "LOCALTIMESTAMP" => true
  | _ => false

set_option maxRecDepth 4000 in
theorem mem_allKeywords_of_operandWord {dialect : Dialect} {word : String}
    (own : dialect.isOperandWord word = true) : word ∈ allKeywords := by
  unfold Dialect.isOperandWord at own
  split at own
  case h_1 => exact List.mem_of_getElem? (rfl : allKeywords[733]? = _)
  case h_2 => exact List.mem_of_getElem? (rfl : allKeywords[240]? = _)
  case h_3 => exact List.mem_of_getElem? (rfl : allKeywords[130]? = _)
  case h_4 => exact List.mem_of_getElem? (rfl : allKeywords[140]? = _)
  case h_5 => exact List.mem_of_getElem? (rfl : allKeywords[637]? = _)
  case h_6 => exact List.mem_of_getElem? (rfl : allKeywords[769]? = _)
  case h_7 => exact List.mem_of_getElem? (rfl : allKeywords[229]? = _)
  case h_8 => exact List.mem_of_getElem? (rfl : allKeywords[678]? = _)
  case h_9 => exact List.mem_of_getElem? (rfl : allKeywords[463]? = _)
  case h_10 => exact List.mem_of_getElem? (rfl : allKeywords[456]? = _)
  case h_11 => exact List.mem_of_getElem? (rfl : allKeywords[341]? = _)
  case h_12 => exact List.mem_of_getElem? (rfl : allKeywords[138]? = _)
  case h_13 => exact List.mem_of_getElem? (rfl : allKeywords[137]? = _)
  case h_14 => exact List.mem_of_getElem? (rfl : allKeywords[131]? = _)
  case h_15 => exact List.mem_of_getElem? (rfl : allKeywords[378]? = _)
  case h_16 => exact List.mem_of_getElem? (rfl : allKeywords[379]? = _)
  case h_17 => cases own

theorem keyword?_of_capitals {text word : String} (index : Nat)
    (listed : allKeywords[index]? = some word) (spelled : Text.capitals text = word) :
    (Token.word text none).keyword? = some word := by
  have member := List.mem_of_getElem? listed
  simp only [Token.keyword?, spelled, List.contains_iff_mem, member, if_true]

namespace Grammar

variable {grammar : Grammar} {tokens after rest : List Token} {expression : Expr}

theorem reads_operand (untyped : Reads grammar.typedString? tokens none tokens)
    (bare : Reads grammar.bareOperand tokens expression after) (ends : EndsOperand after) :
    Reads grammar.operand tokens expression after := by
  have noCollation : Reads (Reader.onlyIf (!grammar.inColumn) (Reader.keyword "COLLATE")) after
      false after := (ends.keyword _).onlyIf_of_denied _
  exact untyped.bind (Reads.bind bare (noCollation.bind rfl))

/-- An operand with nothing behind it is the whole expression. -/
theorem reads_readExpression (read : Reads grammar.operand tokens expression []) (least : Nat) :
    Reads (grammar.readExpression least) tokens expression [] := by
  have stops : Reads (grammar.continued? least expression) [] none [] := by
    refine (Reads.rest _).bind ?_
    rw [precedenceOf, if_pos (Nat.zero_le least)]
    rfl
  exact read.bind ((Reads.rest _).bind (stops.bind rfl))

theorem reads_orElse {first second : Reader Expr} (read : Reads first tokens expression rest) :
    Reads (orElse first second) tokens expression rest := by
  unfold Reads at read ⊢
  rw [StateT.run, orElse, read]

theorem reads_wordOperand_of_form {text word : String} {form : Reader Expr}
    (spelled : (Token.word text none).keyword? = some word) (other : word ≠ "ARRAY")
    (announced : Reads (grammar.announced? word ⟨text, none⟩) tokens (some form) tokens)
    (read : Reads form tokens expression rest) :
    Reads (grammar.wordOperand (.word text none) ⟨text, none⟩) tokens expression rest := by
  unfold wordOperand
  rw [spelled]
  dsimp only
  rw [if_neg other]
  refine announced.bind ?_
  dsimp only
  split
  · exact read
  · exact reads_orElse read

theorem reads_announced?_of_constant {word : String} {value : Value}
    (isConstant : IsConstantWord grammar.dialect word value) (spelled : Name)
    (tokens : List Token) :
    Reads (grammar.announced? word spelled) tokens (some (pure (.value value))) tokens := by
  have opens : Reads (Reader.peekSymbol "(") tokens (tokens.head?.any (Token.isSymbol "("))
      tokens := rfl
  have second : Reads Reader.peekSecond? tokens tokens[1]? tokens := rfl
  refine opens.bind (Reads.bind second ?_)
  cases isConstant with
  | true known | false known =>
      simp only [known, if_true]
      rfl
  | null => rfl

/-- A word that spells a constant is read as the constant. -/
theorem reads_operand_of_constant {text word : String} {value : Value} (index : Nat)
    (listed : allKeywords[index]? = some word) (spelled : Text.capitals text = word)
    (isConstant : IsConstantWord grammar.dialect word value) (ends : EndsOperand after) :
    Reads grammar.operand (.word text none :: after) (.value value) after := by
  have others : word ≠ "ARRAY" ∧ word ≠ "INTERVAL" := by
    cases isConstant <;> decide
  have notInterval : Text.capitals text ≠ "INTERVAL" := spelled ▸ others.2
  have first : Reads Reader.next (.word text none :: after) (.word text none) after := rfl
  have announced := reads_announced?_of_constant isConstant ⟨text, none⟩ after
  have word := reads_wordOperand_of_form (keyword?_of_capitals index listed spelled) others.1
    announced (Reads.pure (Expr.value value) after)
  exact reads_operand (grammar.reads_typedString? ends notInterval) (first.bind word) ends

theorem endsOperand_nil : EndsOperand [] := nofun

theorem reads_operand_of_number (numeral : String) :
    Reads grammar.operand [.number numeral false] (.value (.number numeral false)) [] :=
  reads_operand rfl rfl endsOperand_nil

/-- A minus sign takes the number behind it. -/
theorem reads_operand_of_minus {tokens : List Token}
    (read : Reads (grammar.expressionAbove grammar.levels.product) tokens expression []) :
    Reads grammar.operand (.symbol "-" :: tokens) (.minus expression) [] := by
  have first : Reads Reader.next (.symbol "-" :: tokens) (.symbol "-") tokens := rfl
  exact reads_operand rfl (first.bind (read.bind rfl)) endsOperand_nil

theorem reads_operand_of_plus {tokens : List Token}
    (read : Reads (grammar.expressionAbove grammar.levels.product) tokens expression []) :
    Reads grammar.operand (.symbol "+" :: tokens) (.other ("+" ++ expression.write)) [] := by
  have first : Reads Reader.next (.symbol "+" :: tokens) (.symbol "+") tokens := rfl
  exact reads_operand rfl (first.bind (read.bind rfl)) endsOperand_nil

set_option maxRecDepth 4000 in
/-- A constant is read from its tokens. -/
theorem reads_constant {dialect : Dialect} (depth : Nat) {amount : Literal} {used : List Token}
    (constant : ConstantTokens dialect amount used) (least : Nat) :
    ∃ expression, Lowering.literal expression = .ok amount ∧
      Reads ((level dialect (depth + 2) false).expression least) used expression [] := by
  have only : ∀ {tokens expression},
      Reads (dialect.grammar (depth + 1)).operand tokens expression [] →
        Reads ((level dialect (depth + 2) false).expression least) tokens expression [] :=
    fun read => reads_readExpression read least
  cases constant with
  | number numeral => exact ⟨_, rfl, only (reads_operand_of_number numeral)⟩
  | @negative magnitude unsigned =>
      have inner : Reads ((dialect.grammar (depth + 1)).expressionAbove
          (dialect.grammar (depth + 1)).levels.product) [.number magnitude false]
          (.value (.number magnitude false)) [] :=
        reads_readExpression ((dialect.grammar depth).reads_operand_of_number magnitude) _
      refine ⟨_, ?_, only (reads_operand_of_minus inner)⟩
      have negated : Lowering.negated magnitude = "-" ++ magnitude := by
        unfold Lowering.negated
        split
        · next rest written => simp [written] at unsigned
        · rfl
      rw [← negated]
      rfl
  | string text =>
      exact ⟨.value (.string .single text), rfl, only (reads_operand rfl rfl endsOperand_nil)⟩
  | true known spelled =>
      exact ⟨.value (.boolean true), rfl, only (reads_operand_of_constant 733 rfl spelled
        (.true known) endsOperand_nil)⟩
  | false known spelled =>
      exact ⟨.value (.boolean false), rfl, only (reads_operand_of_constant 240 rfl spelled
        (.false known) endsOperand_nil)⟩
  | null spelled =>
      exact ⟨.value .null, rfl, only (reads_operand_of_constant 463 rfl spelled .null
        endsOperand_nil)⟩

variable {dialect : Dialect} {amount : Literal} {used : List Token}

theorem endsOperand_symbol (change : Change) (rest : List Token) :
    EndsOperand (.symbol change.symbol :: rest) := by
  rintro token ⟨⟩
  cases change with
  | addition => exact .inl rfl
  | subtraction => exact .inr rfl

section Signed

variable (depth : Nat) (constant : ConstantTokens dialect amount used) (change : Change)

include constant

/-- A sign and a constant are an operand of their own. -/
theorem reads_signed : ∃ expression,
    Reads (dialect.grammar (depth + 2)).operand (.symbol change.symbol :: used) expression [] := by
  obtain ⟨inner, -, read⟩ := reads_constant depth constant
    (dialect.grammar (depth + 2)).levels.product
  cases change with
  | addition => exact ⟨_, reads_operand_of_plus read⟩
  | subtraction => exact ⟨_, reads_operand_of_minus read⟩

theorem reads_signedExpression (least : Nat) : ∃ expression,
    Reads ((level dialect (depth + 3) false).expression least) (.symbol change.symbol :: used)
      expression [] := by
  obtain ⟨expression, read⟩ := reads_signed depth constant change
  exact ⟨expression, reads_readExpression read least⟩

/-- No branches follow a word that is spelled as the start of some. -/
theorem conditional_fails :
    (dialect.grammar (depth + 3)).conditional.run (.symbol change.symbol :: used) =
      .error .unexpected := by
  obtain ⟨expression, read⟩ := reads_signedExpression depth constant change 0
  have text : Reads (dialect.grammar (depth + 3)).expressionText (.symbol change.symbol :: used)
      expression.write [] := Reads.bind read rfl
  have tries : Tries (dialect.grammar (depth + 3)).conditional (.symbol change.symbol :: used)
      (fun _ => False) [] :=
    .of_reads ((endsOperand_symbol change used).keyword "WHEN") (.of_reads text (.of_fails rfl))
  exact tries.fails

/-- A word that is no operand of its own announces no form that could be read before a sign. -/
theorem reads_announced?_of_plain {word : String} (plain : dialect.isOperandWord word = false)
    (spelled : Name) : ∃ form?,
      Reads ((dialect.grammar (depth + 3)).announced? word spelled)
        (.symbol change.symbol :: used) form? (.symbol change.symbol :: used) ∧
      ∀ form ∈ form?, (dialect.grammar (depth + 3)).isReserved word = false ∧
        form.run (.symbol change.symbol :: used) = .error .unexpected := by
  have ends := endsOperand_symbol change used
  have noCase := conditional_fails depth constant change
  have opens : Reads (Reader.peekSymbol "(") (.symbol change.symbol :: used) false
      (.symbol change.symbol :: used) := ends.peekSymbol (by decide)
  have second : Reads Reader.peekSecond? (.symbol change.symbol :: used) used.head?
      (.symbol change.symbol :: used) := by
    cases used <;> rfl
  have noQuery : used.head?.any (fun token => token.isKeyword "SELECT" || token.isKeyword "WITH") =
      false := by
    cases constant with
    | true _ spelled | false _ spelled | null spelled => simp [Token.isKeyword, spelled]
    | _ => rfl
  refine ⟨_, opens.bind (Reads.bind second (Reads.pure _ _)), ?_⟩
  dsimp only
  rw [noQuery]
  have absent : ∀ {condition : Bool} {form announced : Reader Expr} {conclusion : Prop},
      condition = false → form ∈ (if condition = true then some announced else none) →
        conclusion := by
    rintro _ _ _ _ rfl ⟨⟩
  have only : ∀ {condition : Bool} {form announced : Reader Expr},
      form ∈ (if condition = true then some announced else none) → announced = form := by
    intro condition form announced found
    cases condition with
    | true => exact Option.some.inj found
    | false => cases found
  have noConversion : ∀ function, ((dialect.grammar (depth + 3)).convert function).run
      (.symbol change.symbol :: used) = .error .unexpected := by
    intro function
    unfold convert
    split
    · exact ends.expectParenthesis
    · exact ends.expectParenthesis
  split <;> intro form found
  case h_1 | h_2 | h_4 | h_5 | h_6 | h_7 | h_30 => exact absent plain found
  case h_3 | h_8 | h_9 | h_10 | h_11 | h_12 | h_27 | h_28 => cases plain
  case h_13 => exact Option.some.inj found ▸ ⟨rfl, noCase⟩
  case h_14 => exact Option.some.inj found ▸ ⟨rfl, noConversion _⟩
  case h_15 => exact only found ▸ ⟨rfl, noConversion _⟩
  case h_19 =>
      refine absent ?_ found
      have databricks : dialect = .databricks := by
        simpa [Dialect.isOperandWord] using plain
      simp [Dialect.grammar, databricks]
  case h_23 => exact absent rfl found
  case h_29 =>
      refine only found ▸ ⟨rfl, ?_⟩
      unfold fullText Reader.nameList
      rw [bind_assoc]
      exact ends.expectParenthesis
  case h_31 => cases found
  all_goals exact Option.some.inj found ▸ ⟨rfl, ends.expectParenthesis⟩

/-- A word that is an operand of its own announces a form that is read before a sign, or that
must be. -/
theorem reads_announced?_of_operandWord {word : String} (own : dialect.isOperandWord word = true)
    (spelled : Name) : ∃ form,
      Reads ((dialect.grammar (depth + 3)).announced? word spelled)
        (.symbol change.symbol :: used) (some form) (.symbol change.symbol :: used) ∧
      ((dialect.grammar (depth + 3)).isReserved word = true ∨ ∃ expression rest,
        Reads form (.symbol change.symbol :: used) expression rest) := by
  have ends := endsOperand_symbol change used
  have opens : Reads (Reader.peekSymbol "(") (.symbol change.symbol :: used) false
      (.symbol change.symbol :: used) := ends.peekSymbol (by decide)
  have second : Reads Reader.peekSecond? (.symbol change.symbol :: used) used.head?
      (.symbol change.symbol :: used) := by
    cases used <;> rfl
  have announced : ∀ {form : Reader Expr}, _ = some form →
      Reads ((dialect.grammar (depth + 3)).announced? word spelled)
        (.symbol change.symbol :: used) (some form) (.symbol change.symbol :: used) :=
    fun same => same ▸ opens.bind (Reads.bind second (Reads.pure _ _))
  dsimp only at announced
  have called : Reads ((dialect.grammar (depth + 3)).timeCall spelled)
      (.symbol change.symbol :: used) (.call [spelled] "") (.symbol change.symbol :: used) :=
    (ends.symbol (by decide)).bind rfl
  unfold Dialect.isOperandWord at own
  split at own
  case h_1 | h_2 | h_3 | h_4 | h_5 | h_6 =>
      exact ⟨_, announced (if_pos own), .inr ⟨_, _, Reads.pure _ _⟩⟩
  case h_7 =>
      refine ⟨_, announced (if_pos ?_), .inl (by simp [isReserved, notNames])⟩
      have other : dialect ≠ .databricks := by simpa using own
      simp [Dialect.grammar, other]
  case h_8 => exact ⟨_, announced (if_pos own), .inl (by simp [isReserved, notNames])⟩
  case h_9 => exact ⟨_, announced rfl, .inr ⟨_, _, Reads.pure _ _⟩⟩
  case h_10 =>
      obtain ⟨expression, read⟩ := reads_signedExpression depth constant change
        (dialect.grammar (depth + 3)).levels.negation
      refine ⟨_, announced rfl, .inr ⟨.not expression, [], ?_⟩⟩
      exact (ends.keyword "EXISTS").bind (Reads.bind read rfl)
  case h_11 =>
      by_cases snowflake : dialect = .snowflake
      · subst snowflake
        obtain ⟨expression, read⟩ := reads_signed depth constant change
        have noField : Reads dateTimeFieldNext [] false [] := rfl
        exact ⟨_, announced rfl, .inr ⟨_, _, Reads.bind read (noField.bind rfl)⟩⟩
      · refine ⟨_, announced rfl, .inl ?_⟩
        simp [isReserved, Dialect.grammar, snowflake, notNames]
  case h_12 | h_13 | h_14 | h_15 | h_16 => exact ⟨_, announced rfl, .inr ⟨_, _, called⟩⟩
  case h_17 => cases own

/-- A bare word before a sign is a column unless it is an operand of its own. -/
theorem reads_operand_of_plain {text : String}
    (plain : dialect.isOperandWord (Text.capitals text) = false) :
    Reads (dialect.grammar (depth + 3)).operand
      (.word text none :: .symbol change.symbol :: used) (.column [⟨text, none⟩])
      (.symbol change.symbol :: used) := by
  have ends := endsOperand_symbol change used
  have notInterval : Text.capitals text ≠ "INTERVAL" := by
    intro same
    rw [same] at plain
    cases plain
  have untyped := (dialect.grammar (depth + 3)).reads_typedString? ends notInterval
  have column := (dialect.grammar (depth + 3)).reads_plainWord ends ⟨text, none⟩
  have first : Reads Reader.next (.word text none :: .symbol change.symbol :: used)
      (.word text none) (.symbol change.symbol :: used) := rfl
  refine reads_operand untyped (first.bind ?_) ends
  dsimp only
  unfold wordOperand
  split
  · exact column
  · next word spelled =>
      obtain ⟨-, rfl⟩ := eq_capitals_of_keyword? spelled
      by_cases array : Text.capitals text = "ARRAY"
      · rw [if_pos array]
        have none : Reads ((dialect.grammar (depth + 3)).arrayForm? ⟨text, Option.none⟩)
            (.symbol change.symbol :: used) Option.none (.symbol change.symbol :: used) :=
          (ends.peekSymbol (by decide)).bind
            (((ends.peekSymbol (by decide)).onlyIf_of_denied _).bind rfl)
        exact none.bind column
      · rw [if_neg array]
        obtain ⟨form?, announced, vain⟩ :=
          reads_announced?_of_plain depth constant change plain ⟨text, none⟩
        refine announced.bind ?_
        cases form? with
        | none => exact column
        | some form =>
            obtain ⟨unreserved, fails⟩ := vain form rfl
            dsimp only
            rw [if_neg (by simp [unreserved])]
            unfold Reads at column ⊢
            rw [StateT.run, orElse, fails, column]

/-- A word that is an operand of its own is no column before a sign. -/
theorem not_column_of_operandWord {text : String}
    (own : dialect.isOperandWord (Text.capitals text) = true) {name : QualifiedName}
    {rest : List Token} :
    ¬Reads (dialect.grammar (depth + 3)).operand
      (.word text none :: .symbol change.symbol :: used) (.column name) rest := by
  intro read
  rcases cases_of_reads_operand _ read with form | bare
  · cases form
  · obtain ⟨token, start, first, bare⟩ := Reads.bind_iff.mp bare
    cases first
    have spelled : (Token.word text none).keyword? = some (Text.capitals text) := by
      simp only [Token.keyword?, List.contains_iff_mem, mem_allKeywords_of_operandWord own, if_true]
    obtain ⟨form, announced, forced⟩ :=
      reads_announced?_of_operandWord depth constant change own ⟨text, none⟩
    have noColumn : ∀ {rest}, ¬Reads form (.symbol change.symbol :: used) (.column name) rest := by
      intro rest read
      rcases announces_of_announced? _ announced with ⟨value, -, rfl⟩ | yields
      · cases read
      · cases yields _ _ _ read
    have notArray : Text.capitals text ≠ "ARRAY" := by
      intro same
      rw [same] at own
      cases own
    unfold wordOperand at bare
    rw [spelled] at bare
    dsimp only at bare
    rw [if_neg notArray, Reads.bind_iff] at bare
    obtain ⟨form?, middle, again, bare⟩ := bare
    obtain ⟨rfl, rfl⟩ := announced.unique again
    dsimp only at bare
    split at bare
    · exact noColumn bare
    · next unreserved =>
        obtain ⟨expression, left, tried⟩ := forced.resolve_left unreserved
        obtain ⟨rfl, rfl⟩ := (reads_orElse tried).unique bare
        exact noColumn tried

end Signed

end Grammar

end Sql

end OrmCode
