import OrmCode.Lowering.Statement
import OrmCode.Proofs.Grammar.Operand
import OrmCode.Proofs.Outcome
import OrmCode.Proofs.Scan.Constant

/-!
# What a reading accounts for

The tokens that a constant or a column is read from hold at least as many characters that
count as it has itself.  They hold as many only where it stands there bare.
-/

namespace OrmCode

namespace Sql

/-- The capitals that one character stands for together with others. -/
def ligatures : List (List Char) :=
  [['S', 'S'], ['F', 'F'], ['F', 'I'], ['F', 'L'], ['S', 'T']]

theorem capital_cases (character : Char) :
    (∃ letter, Text.capital character = [letter]) ∨
      ∃ pair ∈ ligatures, pair <+: Text.capital character := by
  unfold Text.capital Text.foreignCapital
  split <;> first
    | exact .inl ⟨_, rfl⟩
    | exact .inr (by decide)

/-- Capitals in which no blank or quote stands and no ligature. -/
def IsSolid (letters : List Char) : Prop :=
  (∀ pair ∈ ligatures, ¬pair <:+: letters) ∧ ' ' ∉ letters ∧ '\x27' ∉ letters

instance (letters : List Char) : Decidable (IsSolid letters) :=
  inferInstanceAs (Decidable (_ ∧ _))

theorem IsSolid.of_append {first second : List Char} (solid : IsSolid (first ++ second)) :
    IsSolid second := by
  obtain ⟨apart, noBlank, noQuote⟩ := solid
  exact ⟨fun pair ligature inside => apart pair ligature
      (inside.trans (List.suffix_append _ _).isInfix),
    fun member => noBlank (List.mem_append_right _ member),
    fun member => noQuote (List.mem_append_right _ member)⟩

/-- A word has as many letters as its capitals, if no ligature stands in these. -/
theorem ink_of_capitals {characters letters : List Char}
    (spelled : characters.flatMap Text.capital = letters) (solid : IsSolid letters) :
    ink characters = letters.length := by
  induction characters generalizing letters with
  | nil =>
      subst spelled
      rfl
  | cons first rest induction =>
      rw [List.flatMap_cons] at spelled
      subst spelled
      rcases capital_cases first with ⟨letter, alone⟩ | ⟨pair, ligature, starts⟩
      · have counts : inkOf first = 1 := by
          refine if_neg ?_
          rintro (rfl | rfl)
          · exact solid.2.1 (List.mem_append_left _ (by decide))
          · exact solid.2.2 (List.mem_append_left _ (by decide))
        have later := induction rfl solid.of_append
        rw [ink_cons, counts, later, alone, List.length_append, List.length_singleton]
      · exact absurd (starts.trans (List.prefix_append _ _)).isInfix (solid.1 pair ligature)

theorem ink_of_capitals_eq {text word : String} (spelled : Text.capitals text = word)
    (solid : IsSolid word.toList) : ink text.toList = word.toList.length := by
  refine ink_of_capitals ?_ solid
  rw [← spelled, Text.capitals, String.toList_ofList]

@[simp] theorem Token.ink_symbol (text : String) : (Token.symbol text).ink = 1 := rfl

theorem Token.ink_word (text : String) (quote? : Option Char) :
    (Token.word text quote?).ink = Sql.ink text.toList + quote?.elim 0 fun _ => 1 := by
  cases quote? <;> rfl

/-- Tokens without a character that counts go on with no symbol. -/
theorem isSymbol_of_held {rest : List Token} (nothing : held rest = 0) (text : String) :
    rest.head?.any (Token.isSymbol text) = false := by
  cases rest with
  | nil => rfl
  | cons token others =>
      cases token with
      | symbol other => simp [held_cons] at nothing
      | _ => rfl

/-- Tokens without a character that counts go on with no keyword. -/
theorem isKeyword_of_held {rest : List Token} (nothing : held rest = 0) {word : String}
    (solid : IsSolid word.toList) (something : 0 < word.toList.length) :
    rest.head?.any (Token.isKeyword word) = false := by
  cases rest with
  | nil => rfl
  | cons token others =>
      cases token with
      | word text quote? =>
          cases quote? with
          | some quote => rfl
          | none =>
              rw [List.head?_cons, Option.any_some, Token.isKeyword, beq_eq_false_iff_ne]
              intro spelled
              have counts := ink_of_capitals_eq spelled solid
              rw [held_cons, Token.ink_word, counts] at nothing
              omega
      | _ => rfl

/-- How many characters that count a constant has as it is written as SQL. -/
def inkOfConstant (amount : Literal) : Nat :=
  ink (Sequelize.sqlLiteral amount).toList

theorem inkOfConstant_string (text : String) : inkOfConstant (.string text) = ink text.toList := by
  rw [inkOfConstant, toList_sqlLiteral_string]
  simp [inkOf_quote]

theorem inkOfConstant_number (numeral : String) :
    inkOfConstant (.number numeral) = ink numeral.toList := rfl

/-- A constant accounts for its tokens if it is no longer than these are, and just as long only
where it is written as they are. -/
def Accounted (dialect : Dialect) (amount : Literal) (tokens rest : List Token) : Prop :=
  inkOfConstant amount + held rest ≤ held tokens ∧
    (inkOfConstant amount + held rest = held tokens →
      ∃ used, tokens = used ++ rest ∧ ConstantTokens dialect amount used)

theorem Accounted.of_lt {dialect : Dialect} {amount : Literal} {tokens rest : List Token}
    (less : inkOfConstant amount + held rest < held tokens) :
    Accounted dialect amount tokens rest :=
  ⟨less.le, fun same => absurd same less.ne⟩

/-- A constant has as many characters that count as the tokens it is written as. -/
theorem ConstantTokens.inkOfConstant_eq {dialect : Dialect} {amount : Literal} {used : List Token}
    (constant : ConstantTokens dialect amount used) : inkOfConstant amount = held used := by
  cases constant with
  | number numeral => simp [inkOfConstant_number, Token.ink]
  | negative unsigned =>
      rw [inkOfConstant_number, String.toList_append, ink_append]
      simp [Token.ink, inkOf]
  | string text => simp [inkOfConstant_string, Token.ink]
  | true _ spelled | false _ spelled | null spelled =>
      exact (ink_of_capitals_eq spelled (by decide)).symm

theorem Accounted.of_tokens {dialect : Dialect} {amount : Literal} {used : List Token}
    (constant : ConstantTokens dialect amount used) (rest : List Token) :
    Accounted dialect amount (used ++ rest) rest := by
  refine ⟨?_, fun _ => ⟨used, rfl, constant⟩⟩
  rw [constant.inkOfConstant_eq, held_append]

namespace Grammar

variable {dialect : Dialect}

theorem accounted_constantWord {text : String} {value : Value} {amount : Literal}
    (word : IsConstantWord dialect (Text.capitals text) value)
    (constant : Lowering.constant value = .ok amount) (rest : List Token) :
    Accounted dialect amount (.word text none :: rest) rest := by
  generalize spelled : Text.capitals text = capitals at word
  cases word with
  | true known =>
      cases constant
      exact .of_tokens (.true known spelled) rest
  | false known =>
      cases constant
      exact .of_tokens (.false known spelled) rest
  | null =>
      cases constant
      exact .of_tokens (.null spelled) rest

theorem accounted_number {numeral : String} {long : Bool} (rest : List Token) :
    Accounted dialect (.number numeral) (.number numeral long :: rest) rest := by
  cases long with
  | true =>
      refine .of_lt ?_
      simp [inkOfConstant_number, Token.ink]
  | false => exact .of_tokens (.number numeral) rest

theorem accounted_minus {numeral : String} {tokens rest : List Token}
    (inner : Accounted dialect (.number numeral) tokens rest) :
    Accounted dialect (.number (Lowering.negated numeral)) (.symbol "-" :: tokens) rest := by
  obtain ⟨bound, tight⟩ := inner
  rw [inkOfConstant_number] at bound tight
  by_cases signed : ∃ magnitude, numeral.toList = '-' :: magnitude
  · obtain ⟨magnitude, written⟩ := signed
    refine .of_lt ?_
    have dash : inkOf '-' = 1 := rfl
    simp only [inkOfConstant_number, Lowering.negated, written, String.toList_ofList, held_cons,
      Token.ink_symbol, ink_cons, dash] at bound ⊢
    omega
  · have unsigned : Lowering.negated numeral = "-" ++ numeral := by
      unfold Lowering.negated
      split
      · next magnitude written => exact absurd ⟨magnitude, written⟩ signed
      · rfl
    have longer : ink ("-" ++ numeral).toList = 1 + ink numeral.toList := by
      rw [String.toList_append, ink_append]
      rfl
    rw [unsigned, Accounted, inkOfConstant_number, longer, held_cons, Token.ink_symbol]
    refine ⟨by omega, fun same => ?_⟩
    obtain ⟨used, rfl, constant⟩ := tight (by omega)
    cases constant with
    | number =>
        exact ⟨_, rfl, .negative fun first => signed (List.head?_eq_some_iff.mp first)⟩
    | negative => exact absurd ⟨_, String.toList_append⟩ signed

theorem ne_nil_of_separatedWithin {Value : Type} {reader : Reader Value} {trailing : Bool}
    {fuel : Nat} : Yields (Reader.separatedWithin trailing reader fuel) (· ≠ []) := by
  cases fuel with
  | zero => exact .unexpected
  | succ fuel =>
      refine .bind fun item => .bind fun comma => ?_
      split
      · refine .bind fun token? => ?_
        split
        · exact .pure (List.cons_ne_nil _ _)
        · exact .bind fun others => .pure (List.cons_ne_nil _ _)
      · exact .pure (List.cons_ne_nil _ _)

/-- The first item of a list is read first, and an only item up to the comma that may end the
list. -/
theorem reads_first_of_separated {Value : Type} {reader : Reader Value} {trailing : Bool}
    {values : List Value} {tokens rest : List Token}
    (read : Reads (Reader.separated trailing reader) tokens values rest) :
    ∃ first others middle, values = first :: others ∧ Reads reader tokens first middle ∧
      (others = [] → held rest ≤ held middle) := by
  rw [Reader.separated, Reads.bind_iff] at read
  simp only [Reads.rest_iff] at read
  obtain ⟨_, _, ⟨rfl, rfl⟩, read⟩ := read
  rw [Reader.separatedWithin, Reads.bind_iff] at read
  obtain ⟨first, middle, here, read⟩ := read
  rw [Reads.bind_iff] at read
  obtain ⟨comma, after, asked, read⟩ := read
  rcases Reads.symbol_iff.mp asked with ⟨rfl, rfl⟩ | ⟨rfl, -, rfl⟩
  · rw [if_pos rfl, Reads.bind_iff] at read
    simp only [Reads.peek?_iff] at read
    obtain ⟨_, _, ⟨rfl, rfl⟩, read⟩ := read
    split at read
    · obtain ⟨rfl, rfl⟩ := Reads.pure_iff.mp read
      exact ⟨first, [], _, rfl, here, fun _ => by simp⟩
    · rw [Reads.bind_iff] at read
      obtain ⟨others, _, later, read⟩ := read
      obtain ⟨rfl, -⟩ := Reads.pure_iff.mp read
      exact ⟨first, others, _, rfl, here,
        fun none => absurd none (ne_nil_of_separatedWithin _ _ _ later)⟩
  · obtain ⟨rfl, rfl⟩ := Reads.pure_iff.mp read
    exact ⟨first, [], _, rfl, here, fun _ => Nat.le_refl _⟩

/-- A constant is accounted for by the tokens that it is read from. -/
theorem accounted_of_reads {depth : Nat} {inColumn : Bool} {least : Nat} {expression : Expr}
    {amount : Literal} {tokens rest : List Token}
    (read : Reads ((level dialect depth inColumn).expression least) tokens expression rest)
    (constant : Lowering.literal expression = .ok amount) :
    Accounted dialect amount tokens rest := by
  induction depth generalizing inColumn least expression amount tokens rest with
  | zero => cases read
  | succ depth induction =>
      have operand := readsOperand_of_reads _ read
        (by cases expression <;> first | rfl | cases constant)
        (by cases expression <;> first | rfl | cases constant)
        (by rintro _ _ _ rfl; cases constant)
      cases operand with
      | column => cases constant
      | constant rest word => exact accounted_constantWord word constant rest
      | number numeral long rest =>
          cases constant
          exact accounted_number rest
      | string form text rest =>
          cases form with
          | single =>
              cases constant
              exact .of_tokens (.string text) rest
          | double =>
              cases constant
              refine .of_lt ?_
              simp [inkOfConstant_string, Token.ink]
          | _ => cases constant
      | placeholder => cases constant
      | minus inner =>
          obtain ⟨value, innerConstant, negated⟩ := Outcome.bind_eq_ok.mp constant
          split at negated
          · cases negated
            exact accounted_minus (induction inner innerConstant)
          · cases negated
      | nested listed =>
          obtain ⟨_, _, middle, ⟨⟩, inner, shorter⟩ := reads_first_of_separated listed
          have bound := (induction inner constant).1
          replace shorter := shorter rfl
          refine .of_lt ?_
          rw [held_cons, Token.ink_symbol] at shorter ⊢
          omega

/-- A part of a name stands before the others. -/
theorem reads_namePart {grammar : Grammar} {fuel : Nat} {name : Name} {tokens rest : List Token}
    {parts : List Name}
    (read : Reads (do
      let (others, wildcard) ← grammar.nameParts fuel
      return (name :: others, wildcard)) tokens (parts, false) rest) :
    ∃ others, parts = name :: others ∧
      Reads (grammar.nameParts fuel) tokens (others, false) rest := by
  rw [Reads.bind_iff] at read
  obtain ⟨⟨others, wildcard⟩, _, read, same⟩ := read
  obtain ⟨same, rfl⟩ := Reads.pure_iff.mp same
  cases same
  exact ⟨others, rfl, read⟩

/-- The last part of a name is accounted for, and the period before it besides. -/
theorem ink_of_nameParts {grammar : Grammar} {fuel : Nat} {tokens rest : List Token}
    {others : List Name} (read : Reads (grammar.nameParts fuel) tokens (others, false) rest) :
    (others = [] ∧ rest = tokens) ∨
      ∃ last ∈ others.getLast?, ink last.text.toList + held rest < held tokens := by
  induction fuel generalizing tokens others with
  | zero => cases read
  | succ fuel induction =>
      rw [nameParts, Reads.bind_iff] at read
      obtain ⟨period, middle, asked, read⟩ := read
      rcases Reads.symbol_iff.mp asked with ⟨rfl, rfl⟩ | ⟨rfl, -, rfl⟩
      · right
        rw [if_pos rfl, Reads.bind_iff] at read
        simp only [Reads.next_iff] at read
        obtain ⟨token, after, rfl, read⟩ := read
        have part : ∀ {name : Name} {later : List Name}, ink name.text.toList ≤ token.ink →
            Reads (grammar.nameParts fuel) after (later, false) rest →
              ∃ last ∈ (name :: later).getLast?,
                ink last.text.toList + held rest < held (.symbol "." :: token :: after) := by
          intro name later bound read
          rcases induction read with ⟨rfl, rfl⟩ | ⟨last, isLast, less⟩
          · refine ⟨name, rfl, ?_⟩
            simp only [held_cons, Token.ink_symbol]
            omega
          · refine ⟨last, ?_, ?_⟩
            · rw [List.getLast?_cons, Option.mem_def.mp isLast]
              rfl
            · simp only [held_cons]
              omega
        split at read
        · obtain ⟨later, rfl, others⟩ := reads_namePart read
          exact part (by simp [Token.ink_word]) others
        · obtain ⟨later, rfl, others⟩ := reads_namePart read
          exact part (Nat.le_refl _) others
        · split at read
          · cases read
          · cases read
        · cases read
      · obtain ⟨same, rfl⟩ := Reads.pure_iff.mp read
        cases same
        exact .inl ⟨rfl, rfl⟩

end Grammar

end Sql

namespace Lowering

/-- A column is named by the last part of its name. -/
theorem Scope.text_of_resolve {scope : Scope} {name : Sql.QualifiedName} {column : String}
    (resolved : scope.resolve name = .ok column) : ∃ last ∈ name.getLast?, last.text = column := by
  unfold resolve at resolved
  rw [List.getLast?_eq_head?_reverse]
  split at resolved
  · cases resolved
  · next last same =>
      cases resolved
      exact ⟨last, by rw [same]; rfl, rfl⟩
  · next last qualifier others same =>
      split at resolved
      · cases resolved
        exact ⟨last, by rw [same]; rfl, rfl⟩
      · cases resolved

/-- A column is changed by the sum or the difference of the column and a constant. -/
theorem eq_binary_of_assignedValue {scope : Scope} {expression : Sql.Expr} {column : String}
    {change : Change} {amount : Literal}
    (changes : assignedValue scope expression = .ok (.changed column change amount)) :
    ∃ operator name right, expression = .binary operator (.column name) right ∧
      (operator = .plus ∨ operator = .minus) ∧ operator.write = change.symbol ∧
      scope.resolve name = .ok column ∧ literal right = .ok amount := by
  unfold assignedValue at changes
  split at changes
  · next operator left right =>
      split at changes
      · next name =>
          obtain ⟨column, resolved, changes⟩ := Outcome.bind_eq_ok.mp changes
          obtain ⟨amount, constant, changes⟩ := Outcome.bind_eq_ok.mp changes
          obtain ⟨change, made, changes⟩ := Outcome.bind_eq_ok.mp changes
          cases changes
          unfold Lowering.change at made
          split at made
          · cases made
            exact ⟨_, name, right, rfl, .inl rfl, rfl, resolved, constant⟩
          · cases made
            exact ⟨_, name, right, rfl, .inr rfl, rfl, resolved, constant⟩
          · cases made
      · cases changes
  · obtain ⟨_, _, same⟩ := Outcome.map_eq_ok.mp changes
    cases same

end Lowering

namespace Sql

/-- A changed column is accounted for by the tokens that it is read from.  They hold no more
than the column, the sign and the amount only where these stand there bare. -/
theorem accounted_of_change {dialect : Dialect} {depth : Nat} {inColumn : Bool} {least : Nat}
    {expression : Expr} {scope : Lowering.Scope} {column : String} {change : Change}
    {amount : Literal} {tokens rest : List Token}
    (read : Reads ((level dialect depth inColumn).expression least) tokens expression rest)
    (changes : Lowering.assignedValue scope expression = .ok (.changed column change amount))
    (tight : held tokens ≤ ink column.toList + 1 + inkOfConstant amount) :
    held rest = 0 ∧ ∃ used, ConstantTokens dialect amount used ∧
      tokens = .word column none :: .symbol change.symbol :: (used ++ rest) := by
  obtain ⟨operator, name, right, rfl, sum, sign, resolved, constant⟩ :=
    Lowering.eq_binary_of_assignedValue changes
  obtain ⟨last, isLast, rfl⟩ := Lowering.Scope.text_of_resolve resolved
  cases depth with
  | zero => cases read
  | succ depth =>
      obtain ⟨middle, precedence, named, readRight⟩ := Grammar.reads_of_sum _ read sum
      obtain ⟨bound, exact⟩ := Grammar.accounted_of_reads readRight constant
      rw [sign] at named
      cases Grammar.readsOperand_of_operand _ named rfl with
      | @column text quote? others fuel after _ parts =>
          rcases Grammar.ink_of_nameParts parts with ⟨rfl, rfl⟩ | ⟨found, isFound, less⟩
          · obtain rfl : Name.mk text quote? = last := Option.some.inj isLast
            simp only [held_cons, Token.ink_symbol, Token.ink_word] at tight
            cases quote? with
            | none =>
                simp only [Option.elim_none] at tight
                obtain ⟨used, rfl, written⟩ := exact (by omega)
                exact ⟨by omega, used, written, rfl⟩
            | some quote =>
                simp only [Option.elim_some] at tight
                omega
          · rw [List.getLast?_cons, Option.mem_def.mp isFound] at isLast
            obtain rfl : found = last := Option.some.inj isLast
            simp only [held_cons, Token.ink_symbol] at tight less
            omega

end Sql

end OrmCode
