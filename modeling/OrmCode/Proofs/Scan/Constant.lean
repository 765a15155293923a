import OrmCode.Code.Sequelize
import OrmCode.Proofs.Scan.Name

/-!
# Constants as SQL

What a constant is read as where it is written as SQL again.  A text is read as itself unless
the dialect takes a backslash in it for an escape, or its first quote for the second of three.
-/

namespace OrmCode

/-- The symbol between a column and the amount that it is changed by. -/
def Change.symbol : Change → String
  | addition => "+"
  | subtraction => "-"

namespace Sql

variable {dialect : Dialect}

/-- Characters with each single quote doubled. -/
def doubled (characters : List Char) : List Char :=
  characters.flatMap fun character =>
    if character = '\x27' then ['\x27', '\x27'] else [character]

@[simp] theorem doubled_nil : doubled [] = [] := rfl

theorem doubled_quote (rest : List Char) :
    doubled ('\x27' :: rest) = '\x27' :: '\x27' :: doubled rest := rfl

theorem doubled_cons {first : Char} (other : first ≠ '\x27') (rest : List Char) :
    doubled (first :: rest) = first :: doubled rest := by
  rw [doubled, List.flatMap_cons, if_neg other, doubled, List.singleton_append]

theorem doubled_append (first second : List Char) :
    doubled (first ++ second) = doubled first ++ doubled second :=
  List.flatMap_append

@[simp] theorem ink_doubled (characters : List Char) :
    ink (doubled characters) = ink characters := by
  induction characters with
  | nil => rfl
  | cons first rest induction =>
      by_cases quote : first = '\x27'
      · subst quote
        simp [doubled_quote, induction, inkOf]
      · simp [doubled_cons quote, induction]

theorem inkOf_backslash : inkOf '\x5c' = 1 := rfl

theorem inkOf_quote : inkOf '\x27' = 0 := rfl

/-- What is left of a doubled text with a quote behind it counts what the text does. -/
theorem inkOf_add_of_doubled {characters left : List Char} {next : Char}
    (written : doubled characters ++ ['\x27'] = next :: left) :
    inkOf next + ink left = ink characters := by
  have total := congrArg ink written
  simpa [inkOf_quote] using total.symm

theorem toList_sqlLiteral_string (text : String) :
    (Sequelize.sqlLiteral (.string text)).toList = '\x27' :: (doubled text.toList ++ ['\x27']) := by
  simp [Sequelize.sqlLiteral, doubled]

theorem untilQuote_doubled_append {backslash : Bool} {characters : List Char}
    (plain : backslash = true → '\x5c' ∉ characters) {rest : List Char} (more : rest ≠ []) :
    untilQuote '\x27' backslash (doubled characters ++ rest) =
      (untilQuote '\x27' backslash rest).map fun (text, after) => (characters ++ text, after) := by
  induction characters with
  | nil => simp
  | cons first others induction =>
      have later := induction fun escapes => fun member => plain escapes (.tail _ member)
      by_cases quote : first = '\x27'
      · subst quote
        rw [doubled_quote, List.cons_append, List.cons_append, untilQuote, if_pos rfl, if_pos rfl,
          later, Option.map_map]
        rfl
      · have noEscape : ¬(first = '\x5c' ∧ backslash = true) := by
          rintro ⟨rfl, escapes⟩
          exact plain escapes List.mem_cons_self
        obtain ⟨next, left, written⟩ := List.exists_cons_of_ne_nil
          (List.append_ne_nil_of_right_ne_nil (doubled others) more)
        rw [doubled_cons quote, List.cons_append, written, untilQuote, if_neg quote,
          if_neg noEscape, ← written, later, Option.map_map]
        rfl

theorem escapeValue_eq_backslash {character : Char} (same : escapeValue character = '\x5c') :
    character = '\x5c' := by
  unfold escapeValue at same
  split at same <;> first | exact same | exact absurd same (by decide)

/-- A doubled text that starts with a backslash loses it where that is an escape. -/
theorem untilQuote_escape_ne {rest : List Char} :
    untilQuote '\x27' true ('\x5c' :: (doubled rest ++ ['\x27'])) ≠ some ('\x5c' :: rest, []) := by
  obtain ⟨next, left, written⟩ := List.exists_cons_of_ne_nil
    (List.append_ne_nil_of_right_ne_nil (doubled rest) (List.cons_ne_nil '\x27' []))
  intro found
  rw [written, untilQuote, if_neg (by decide), if_pos ⟨rfl, rfl⟩] at found
  obtain ⟨⟨text, after⟩, read, same⟩ := Option.map_eq_some_iff.mp found
  obtain ⟨whole, rfl⟩ := Prod.mk.inj same
  obtain ⟨escaped, rfl⟩ := List.cons.inj whole
  -- The text would count more than the characters that are left for it.
  have kept := holds_untilQuote '\x27' true left text [] read
  have total := inkOf_add_of_doubled written
  rw [escapeValue_eq_backslash escaped, inkOf_backslash] at total
  omega

theorem untilQuote_doubled_iff {backslash : Bool} {characters : List Char} :
    untilQuote '\x27' backslash (doubled characters ++ ['\x27']) = some (characters, []) ↔
      (backslash = true → '\x5c' ∉ characters) := by
  constructor
  · rintro found rfl member
    obtain ⟨before, after, rfl, notBefore⟩ := List.eq_append_cons_of_mem member
    have without : true = true → '\x5c' ∉ before := fun _ => notBefore
    have plain := untilQuote_doubled_append without
      (List.cons_ne_nil '\x5c' (doubled after ++ ['\x27']))
    rw [doubled_append, doubled_cons (by decide), List.append_assoc, List.cons_append,
      plain] at found
    obtain ⟨⟨text, left⟩, read, same⟩ := Option.map_eq_some_iff.mp found
    obtain ⟨whole, rfl⟩ := Prod.mk.inj same
    obtain rfl := List.append_cancel_left whole
    exact untilQuote_escape_ne read
  · intro plain
    rw [untilQuote_doubled_append plain (List.cons_ne_nil _ _), untilQuote, if_pos rfl]
    simp

/-- A doubled text between quotes starts with two quotes only if it starts with one itself. -/
theorem doubled_append_quote_eq {characters rest : List Char}
    (written : doubled characters ++ ['\x27'] = '\x27' :: '\x27' :: rest) :
    characters.head? = some '\x27' := by
  cases characters with
  | nil => simp at written
  | cons first others =>
      by_cases quote : first = '\x27'
      · rw [quote, List.head?_cons]
      · rw [doubled_cons quote] at written
        exact absurd (List.cons.inj written).1 quote

/-- The tokens that a constant is read from as it is written as SQL, words in any letters that
have the same capitals. -/
inductive ConstantTokens (dialect : Dialect) : Literal → List Token → Prop
  | number (numeral : String) : ConstantTokens dialect (.number numeral) [.number numeral false]
  | negative {magnitude : String} (unsigned : magnitude.toList.head? ≠ some '-') :
    ConstantTokens dialect (.number ("-" ++ magnitude)) [.symbol "-", .number magnitude false]
  | string (text : String) : ConstantTokens dialect (.string text) [.string .single text]
  | true {text : String} (known : dialect.booleanLiterals = true)
    (spelled : Text.capitals text = "TRUE") :
    ConstantTokens dialect (.boolean true) [.word text none]
  | false {text : String} (known : dialect.booleanLiterals = true)
    (spelled : Text.capitals text = "FALSE") :
    ConstantTokens dialect (.boolean false) [.word text none]
  | null {text : String} (spelled : Text.capitals text = "NULL") :
    ConstantTokens dialect .null [.word text none]

/-- A text between quotes is read as itself unless the dialect takes a backslash in it for an
escape, or its first quote for one of three. -/
theorem scanStep_doubled_iff {text : String} :
    scanStep dialect '\x27' (doubled text.toList ++ ['\x27']) =
        some (some (.string .single text), []) ↔
      (dialect.backslashEscapes = true → '\x5c' ∉ text.toList) ∧
        (dialect.tripleQuotes = true → text.toList.head? ≠ some '\x27') := by
  have once : scanString .single '\x27' dialect.backslashEscapes
        (doubled text.toList ++ ['\x27']) = some (some (.string .single text), []) ↔
      (dialect.backslashEscapes = true → '\x5c' ∉ text.toList) := by
    rw [← untilQuote_doubled_iff]
    constructor
    · intro found
      obtain ⟨⟨characters, after⟩, read, same⟩ := Option.map_eq_some_iff.mp found
      obtain ⟨token, rfl⟩ := Prod.mk.inj same
      obtain ⟨-, rfl⟩ := Token.string.inj (Option.some.inj token)
      rwa [String.toList_ofList] at read ⊢
    · intro read
      simp [scanString, read]
  rw [scanStep_quote, ← once]
  unfold scanStringOrTriple
  split
  · next second third body triple written =>
      split
      · next quotes =>
          -- Two more quotes open a text of the other form.
          obtain ⟨rfl, rfl⟩ := quotes
          have starts := doubled_append_quote_eq written
          simp only [triple, starts, ne_eq, not_true_eq_false, imp_false, and_false, iff_false]
          intro found
          obtain ⟨read, -, same⟩ := Option.map_eq_some_iff.mp found
          cases same
      · next other =>
          have apart : text.toList.head? ≠ some '\x27' := by
            intro starts
            obtain ⟨rest, same⟩ := List.head?_eq_some_iff.mp starts
            rw [same, doubled_quote] at written
            obtain ⟨rfl, rest⟩ := List.cons.inj written
            obtain ⟨rfl, -⟩ := List.cons.inj rest
            exact other ⟨rfl, rfl⟩
          simp [apart, written]
  · next notTriple =>
      have apart : dialect.tripleQuotes = true → text.toList.head? ≠ some '\x27' := by
        intro triple starts
        obtain ⟨rest, same⟩ := List.head?_eq_some_iff.mp starts
        exact notTriple '\x27' '\x27' _ triple (by rw [same, doubled_quote]; rfl)
      exact ⟨fun found => ⟨found, apart⟩, And.left⟩

/-- Where nothing is read and nothing counts there are only blanks. -/
theorem eq_blank_of_no_tokens {characters : List Char}
    (found : tokens? dialect characters = some []) (nothing : ink characters = 0) :
    ∀ character ∈ characters, character = ' ' := by
  induction characters with
  | nil => simp
  | cons first rest induction =>
      rw [ink_cons] at nothing
      have blank : first = ' ' := by
        by_contra notBlank
        have quote : first = '\x27' := by
          by_contra notQuote
          have one : inkOf first = 1 := if_neg (not_or.mpr ⟨notBlank, notQuote⟩)
          omega
        subst quote
        rw [tokens?_cons, scanStep_quote] at found
        obtain ⟨⟨token?, after⟩, step, others⟩ := Option.bind_eq_some_iff.mp found
        obtain ⟨later, -, tokens⟩ := Option.map_eq_some_iff.mp others
        obtain ⟨form, text, rfl⟩ := token?_of_scanStringOrTriple step
        cases tokens
      subst blank
      have step : scanStep dialect ' ' rest = some (none, rest) := rfl
      rw [tokens?_of_step step] at found
      obtain ⟨later, read, tokens⟩ := Option.map_eq_some_iff.mp found
      obtain rfl : later = [] := tokens
      exact List.forall_mem_cons.mpr ⟨rfl, induction read (by omega)⟩

/-- What is written of a constant as SQL is read as the constant: its text has no escape or
third quote in the dialect, its numeral is a number, and its word a constant. -/
def Dialect.ReadsBack (dialect : Dialect) : Literal → Prop
  | .string text =>
    (dialect.backslashEscapes = true → '\x5c' ∉ text.toList) ∧
      (dialect.tripleQuotes = true → text.toList.head? ≠ some '\x27')
  | .number numeral =>
    scan dialect numeral = some [.number numeral false] ∨
      ∃ magnitude, numeral = "-" ++ magnitude ∧
        scan dialect numeral = some [.symbol "-", .number magnitude false]
  | .boolean _ => dialect.booleanLiterals = true
  | .null => True

/-- A second minus sign would start a comment, in which no number stands. -/
theorem unsigned_of_scan {magnitude : String}
    (found : scan dialect ("-" ++ magnitude) = some [.symbol "-", .number magnitude false]) :
    magnitude.toList.head? ≠ some '-' := by
  intro signed
  obtain ⟨rest, written⟩ := List.head?_eq_some_iff.mp signed
  have comment : scanStep dialect '-' ('-' :: rest) = some (none, afterLine rest) :=
    scanStep_of_comment rfl
  have split : ("-" ++ magnitude).toList = '-' :: '-' :: rest := by
    rw [String.toList_append, written]
    rfl
  rw [scan_eq_tokens?, split, tokens?_of_step comment] at found
  obtain ⟨later, read, tokens⟩ := Option.map_eq_some_iff.mp found
  obtain rfl : later = [.symbol "-", .number magnitude false] := tokens
  have inside := (infix_of_mem read (.tail _ (List.mem_singleton_self _)) rfl).length_le
  have shorter := (suffix_of_afterLine rest).length_le
  simp only [written, Bool.false_eq_true, if_false, List.append_nil, List.length_cons] at inside
  omega

theorem exists_constantTokens {amount : Literal} (reads : dialect.ReadsBack amount) :
    ∃ tokens, ConstantTokens dialect amount tokens ∧
      tokens? dialect (Sequelize.sqlLiteral amount).toList = some tokens := by
  cases amount with
  | string text =>
      refine ⟨_, .string text, ?_⟩
      rw [toList_sqlLiteral_string, tokens?_of_step (scanStep_doubled_iff.mpr reads)]
      rfl
  | number numeral =>
      rcases reads with plain | ⟨magnitude, rfl, negative⟩
      · exact ⟨_, .number numeral, (scan_eq_tokens? numeral).symm.trans plain⟩
      · exact ⟨_, .negative (unsigned_of_scan negative), (scan_eq_tokens? _).symm.trans negative⟩
  | boolean value =>
      cases value with
      | true => exact ⟨[.word "TRUE" none], .true reads rfl, by cases dialect <;> rfl⟩
      | false => exact ⟨[.word "FALSE" none], .false reads rfl, by cases dialect <;> rfl⟩
  | null => exact ⟨[.word "NULL" none], .null rfl, by cases dialect <;> rfl⟩

theorem readsBack_of_constantTokens {amount : Literal} {tokens : List Token}
    (constant : ConstantTokens dialect amount tokens)
    (found : tokens? dialect (Sequelize.sqlLiteral amount).toList = some tokens) :
    dialect.ReadsBack amount := by
  cases constant with
  | number numeral => exact .inl ((scan_eq_tokens? numeral).trans found)
  | negative unsigned => exact .inr ⟨_, rfl, (scan_eq_tokens? _).trans found⟩
  | string text =>
      rw [toList_sqlLiteral_string, tokens?_cons] at found
      obtain ⟨⟨token?, after⟩, step, others⟩ := Option.bind_eq_some_iff.mp found
      obtain ⟨later, read, tokens⟩ := Option.map_eq_some_iff.mp others
      obtain ⟨form, read', rfl⟩ := token?_of_scanStringOrTriple (scanStep_quote _ ▸ step)
      obtain ⟨same, rfl⟩ := List.cons.inj tokens
      obtain ⟨rfl, rfl⟩ := Token.string.inj same
      -- Blanks may be left, but the quote at the end is none.
      have counts := (accounts_scanStep step).ink_le
      simp only [Option.elim_some, Token.ink, ink_cons, ink_append, ink_doubled, inkOf_quote,
        ink_nil] at counts
      have blank := eq_blank_of_no_tokens read (by omega)
      rcases List.suffix_concat_iff.mp (suffix_of_scanStep step) with rfl | ⟨others, rfl, -⟩
      · exact scanStep_doubled_iff.mp step
      · have quote := blank '\x27' (List.mem_append_right _ (List.mem_singleton_self _))
        exact absurd quote (by decide)
  | true known | false known => exact known
  | null => trivial

/-- The sign between a column and its change is read as a symbol everywhere. -/
theorem tokens?_changeSign (change : Change) (rest : List Char) :
    tokens? dialect (change.symbol.toList ++ ' ' :: rest) =
      (tokens? dialect rest).map (.symbol change.symbol :: ·) := by
  have blank : scanStep dialect ' ' rest = some (none, rest) := rfl
  cases change with
  | addition =>
      have sign : scanStep dialect '+' (' ' :: rest) = some (some (.symbol "+"), ' ' :: rest) := by
        cases dialect <;> rfl
      show tokens? dialect ('+' :: ' ' :: rest) = _
      rw [tokens?_of_step sign, tokens?_of_step blank, Option.map_map]
      rfl
  | subtraction =>
      have sign : scanStep dialect '-' (' ' :: rest) = some (some (.symbol "-"), ' ' :: rest) := by
        cases dialect <;> rfl
      show tokens? dialect ('-' :: ' ' :: rest) = _
      rw [tokens?_of_step sign, tokens?_of_step blank, Option.map_map]
      rfl

end Sql

end OrmCode
