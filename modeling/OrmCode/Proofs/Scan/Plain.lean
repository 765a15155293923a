import OrmCode.ColumnType
import OrmCode.Proofs.Scan.Lines
import OrmCode.Proofs.Text.Lettered

/-!
# Tokens of plain text

A text spells tokens if they are read off it.  A blank, a parenthesis or a comma does so
whatever follows, and a word, a whole number or a quoted text if one of these follows.
-/

namespace OrmCode

namespace Sql

variable {dialect : Dialect}

/-- A character that ends a word, a number or a quoted text. -/
def endsWord (character : Char) : Bool :=
  [' ', '(', ')', ','].contains character

/-- A text spells some tokens whatever follows. -/
def Closed (dialect : Dialect) (text : String) (tokens : List Token) : Prop :=
  ∀ rest, tokens? dialect (text.toList ++ rest) = (tokens? dialect rest).map (tokens ++ ·)

/-- A text spells some tokens, provided that what follows ends the last of its words. -/
def Spells (dialect : Dialect) (text : String) (tokens : List Token) : Prop :=
  ∀ next rest, endsWord next = true →
    tokens? dialect (text.toList ++ next :: rest) =
      (tokens? dialect (next :: rest)).map (tokens ++ ·)

/-- A text that ends every word before it and spells some tokens itself. -/
def Delimits (dialect : Dialect) (text : String) (tokens : List Token) : Prop :=
  (∃ first others, text.toList = first :: others ∧ endsWord first = true) ∧
    Closed dialect text tokens

theorem eq_of_endsWord {character : Char} (ends : endsWord character = true) :
    character = ' ' ∨ character = '(' ∨ character = ')' ∨ character = ',' := by
  simpa [endsWord] using ends

theorem Dialect.continuesName_of_endsWord {character : Char} (ends : endsWord character = true) :
    dialect.continuesName character = false := by
  rcases eq_of_endsWord ends with rfl | rfl | rfl | rfl <;> cases dialect <;> decide

theorem Dialect.continuesName_of_continues {character : Char}
    (continues : Text.continuesIdentifier character = true) :
    dialect.continuesName character = true := by
  simp only [Text.continuesIdentifier, Char.isAlphanum, Bool.or_eq_true, beq_iff_eq] at continues
  rcases continues with (letter | digit) | rfl
  · cases dialect <;>
      simp [continuesName, startsName, Char.isAlphanum, letter, Text.isAlphabetic_of_isAlpha]
  · cases dialect <;> simp [continuesName, startsName, Char.isAlphanum, digit]
  · cases dialect <;> decide

theorem Dialect.startsName_of_isAlpha {character : Char} (letter : character.isAlpha = true) :
    dialect.startsName character = true := by
  cases dialect <;>
    simp [startsName, Char.isAlphanum, letter, Text.isAlphabetic_of_isAlpha]

/-- Characters that differ in a property are different. -/
theorem ne_of_holds {holds : Char → Bool} {character : Char} (here : holds character = true)
    (other : Char) (refused : holds other = false) : character ≠ other := by
  rintro rfl
  rw [here] at refused
  cases refused

/-- A name that goes on after its first letter announces no string. -/
theorem scanAnnounced?_of_continues (first : Char) {second : Char}
    (continues : Text.continuesIdentifier second = true) (rest : List Char) :
    scanAnnounced? dialect first (second :: rest) = none := by
  have notSingle := ne_of_holds continues '\x27' (by decide)
  have notDouble := ne_of_holds continues '\x22' (by decide)
  have notAmpersand := ne_of_holds continues '&' (by decide)
  rw [scanAnnounced?]
  all_goals (intro body _ same; simp_all)

theorem quotesName_of_isAlphanum {character : Char} (plain : character.isAlphanum = true)
    (rest : List Char) : quotesName dialect character rest = false := by
  have notBacktick := ne_of_holds plain '\x60' (by decide)
  have notDouble := ne_of_holds plain '\x22' (by decide)
  have notBracket := ne_of_holds plain '[' (by decide)
  have opensNone : dialect.opensQuotedName character = false := by
    cases dialect <;> simp [Dialect.opensQuotedName, notBacktick, notDouble, notBracket]
  rw [quotesName, opensNone, Bool.false_and]

theorem scanStep_letter {first second : Char} (letter : first.isAlpha = true)
    (continues : Text.continuesIdentifier second = true) (rest : List Char) :
    scanStep dialect first (second :: rest) =
      some (scanWord dialect [first] (second :: rest)) := by
  have apart : ∀ other, other.isAlpha = false → ¬first = other := ne_of_holds letter
  have notQuoted : quotesName dialect first (second :: rest) = false :=
    quotesName_of_isAlphanum (by rw [Char.isAlphanum, letter, Bool.true_or]) _
  have noComment : scanComment? dialect first (second :: rest) = none := by
    rw [scanComment?]
    · exact apart '#' (by decide)
    · exact fun body same => absurd same (apart '-' (by decide))
    · exact fun body same => absurd same (apart '/' (by decide))
    · exact fun body same => absurd same (apart '/' (by decide))
  simp [scanStep, scanAnnounced?_of_continues first continues, notQuoted,
    Text.isDigit_of_isAlpha letter, noComment, Dialect.startsName_of_isAlpha letter, apart]

theorem toUpper_of_isDigit {character : Char} (digit : character.isDigit = true) :
    character.toUpper = character := by
  have notSmall : ¬('a'.val ≤ character.val ∧ character.val ≤ 'z'.val) := by
    simp only [Char.isDigit, ge_iff_le, Bool.and_eq_true, decide_eq_true_eq,
      UInt32.le_iff_toNat_le] at digit ⊢
    have last : '9'.val.toNat = 57 := rfl
    have small : 'a'.val.toNat = 97 := rfl
    omega
  exact dif_neg notSmall

theorem scanStep_digit {first : Char} (digit : first.isDigit = true) (rest : List Char) :
    scanStep dialect first rest = some (scanNumber dialect (first :: rest)) := by
  have apart : ∀ other, other.isDigit = false → ¬first = other := ne_of_holds digit
  have notQuoted : quotesName dialect first rest = false :=
    quotesName_of_isAlphanum (by rw [Char.isAlphanum, digit, Bool.or_true]) _
  have unchanged := toUpper_of_isDigit digit
  have announcesNone : scanAnnounced? dialect first rest = none := by
    rw [scanAnnounced?]
    all_goals (intro body same; rw [unchanged] at same; simp [apart] at same)
  have announcesNothing : announces dialect first = false := by
    unfold announces
    rw [unchanged]
    split <;> simp_all
  simp [scanStep, announcesNone, announcesNothing, notQuoted, digit, apart]

theorem takeWhile_append_of_stop {accepts : Char → Bool} {characters : List Char}
    (all : ∀ character ∈ characters, accepts character = true) {next : Char}
    (stops : accepts next = false) (rest : List Char) :
    (characters ++ next :: rest).takeWhile accepts = characters ∧
      (characters ++ next :: rest).dropWhile accepts = next :: rest := by
  rw [takeWhile_append_blank accepts stops, dropWhile_append_blank accepts stops,
    List.takeWhile_eq_self_iff.mpr all, List.dropWhile_eq_nil_iff.mpr all]
  exact ⟨rfl, rfl⟩

/-- A text of two or more letters, digits and underscores that starts with a letter. -/
def isWord (text : String) : Bool :=
  match text.toList with
  | first :: second :: rest =>
    first.isAlpha && (second :: rest).all Text.continuesIdentifier
  | _ => false

theorem untilQuote_of_plain (backslash : Bool) {characters : List Char}
    (plain : ∀ character ∈ characters, character ≠ '\x27' ∧ character ≠ '\x5c')
    {next : Char} (notQuote : next ≠ '\x27') (rest : List Char) :
    untilQuote '\x27' backslash (characters ++ '\x27' :: next :: rest) =
      some (characters, next :: rest) := by
  induction characters with
  | nil => rw [List.nil_append, untilQuote, if_pos rfl, if_neg notQuote]
  | cons first others induction =>
      obtain ⟨here, later⟩ := List.forall_mem_cons.mp plain
      have found := induction later
      cases others with
      | nil =>
          simp only [List.nil_append] at found
          simp [untilQuote, here, notQuote]
      | cons second others =>
          simp only [List.cons_append] at found
          simp [untilQuote, here, found]

/-- Two quotes in a row stand only around an empty text, which is no third quote's start. -/
theorem scanStringOrTriple_of_plain (backslash : Bool) {characters : List Char}
    (plain : ∀ character ∈ characters, character ≠ '\x27' ∧ character ≠ '\x5c')
    {next : Char} (notQuote : next ≠ '\x27') (rest : List Char) :
    scanStringOrTriple dialect .single .tripleSingle '\x27' backslash
        (characters ++ '\x27' :: next :: rest) =
      scanString .single '\x27' backslash (characters ++ '\x27' :: next :: rest) := by
  unfold scanStringOrTriple
  split
  · next second third body _ written =>
      refine if_neg ?_
      rintro ⟨rfl, rfl⟩
      cases characters with
      | nil => exact notQuote (List.cons.inj (List.cons.inj written).2).1
      | cons first others =>
          obtain rfl := (List.cons.inj written).1
          exact absurd rfl (plain _ List.mem_cons_self).1
  · rfl

namespace Closed

theorem blank : Closed dialect " " [] := by
  intro rest
  have step : scanStep dialect ' ' rest = some (none, rest) := rfl
  exact tokens?_of_step step

theorem opening : Closed dialect "(" [.symbol "("] := by
  intro rest
  have step : scanStep dialect '(' rest = some (some (.symbol "("), rest) := by
    cases dialect <;> rfl
  exact tokens?_of_step step

theorem closing : Closed dialect ")" [.symbol ")"] := by
  intro rest
  have step : scanStep dialect ')' rest = some (some (.symbol ")"), rest) := by
    cases dialect <;> rfl
  exact tokens?_of_step step

theorem comma : Closed dialect "," [.symbol ","] := by
  intro rest
  have step : scanStep dialect ',' rest = some (some (.symbol ","), rest) := by
    cases dialect <;> rfl
  exact tokens?_of_step step

theorem spells {text : String} {tokens : List Token} (closed : Closed dialect text tokens) :
    Spells dialect text tokens :=
  fun next rest _ => closed (next :: rest)

theorem append {first second : String} {tokens others : List Token}
    (closed : Closed dialect first tokens) (closedToo : Closed dialect second others) :
    Closed dialect (first ++ second) (tokens ++ others) := by
  intro rest
  rw [String.toList_append, List.append_assoc, closed, closedToo, Option.map_map]
  simp only [Function.comp_def, List.append_assoc]

theorem append_spells {first second : String} {tokens others : List Token}
    (closed : Closed dialect first tokens) (spelled : Spells dialect second others) :
    Spells dialect (first ++ second) (tokens ++ others) := by
  intro next rest ends
  rw [String.toList_append, List.append_assoc, closed, spelled next rest ends, Option.map_map]
  simp only [Function.comp_def, List.append_assoc]

end Closed

theorem delimits_blank : Delimits dialect " " [] :=
  ⟨⟨' ', [], rfl, by decide⟩, .blank⟩

theorem delimits_comma : Delimits dialect ", " [.symbol ","] :=
  ⟨⟨',', [' '], rfl, by decide⟩, .append .comma .blank⟩

namespace Spells

theorem delimited {text delimiter : String} {tokens others : List Token}
    (spelled : Spells dialect text tokens) (delimits : Delimits dialect delimiter others) :
    Closed dialect (text ++ delimiter) (tokens ++ others) := by
  obtain ⟨⟨first, after, same, ends⟩, closed⟩ := delimits
  intro rest
  have found := closed rest
  rw [same, List.cons_append] at found
  rw [String.toList_append, List.append_assoc, same, List.cons_append, spelled first _ ends, found,
    Option.map_map]
  simp only [Function.comp_def, List.append_assoc]

theorem intercalate {separator : String} {between : List Token}
    (delimits : Delimits dialect separator between) {texts : List String}
    {tokens : List (List Token)} (spelled : List.Forall₂ (Spells dialect) texts tokens) :
    Spells dialect (separator.intercalate texts) (between.intercalate tokens) := by
  induction spelled with
  | nil => exact fun next rest _ => by simp
  | @cons text token texts tokens here later induction =>
      cases later with
      | nil => simpa using here
      | cons next others =>
          rw [String.intercalate_cons_cons, List.intercalate_cons_cons]
          exact (here.delimited delimits).append_spells induction

theorem word {text : String} (word : isWord text = true) :
    Spells dialect text [.word text none] := by
  intro next rest ends
  unfold isWord at word
  split at word
  · next first second others characters =>
      obtain ⟨letter, continues⟩ := Bool.and_eq_true_iff.mp word
      rw [List.all_eq_true] at continues
      have stops : dialect.continuesName next = false := Dialect.continuesName_of_endsWord ends
      have step : scanStep dialect first (second :: (others ++ next :: rest)) = _ :=
        scanStep_letter letter (continues second List.mem_cons_self) _
      obtain ⟨taken, left⟩ := takeWhile_append_of_stop
        (fun character member => Dialect.continuesName_of_continues (continues character member))
        stops rest
      rw [← List.cons_append, scanWord, taken, left, List.singleton_append, ← characters,
        String.ofList_toList] at step
      rw [characters]
      exact tokens?_of_step step
  · cases word

/-- Nothing that ends a word goes on with a number. -/
theorem digits {text : String} (whole : ColumnType.isDigits text = true) :
    Spells dialect text [.number text false] := by
  intro next rest ends
  obtain ⟨something, digits⟩ := Bool.and_eq_true_iff.mp whole
  rw [List.all_eq_true] at digits
  have apart : ∀ other, endsWord other = false → next ≠ other := ne_of_holds ends
  have stops : next.isDigit = false := by
    rcases eq_of_endsWord ends with rfl | rfl | rfl | rfl <;> decide
  have refused : dialect.continuesName next = false := Dialect.continuesName_of_endsWord ends
  obtain ⟨taken, left⟩ := takeWhile_append_of_stop digits stops rest
  have noPoint : point (next :: rest) = [] := by
    simp [point, apart '.' (by decide)]
  have noPower : exponent (next :: rest) = [] := by
    simp [exponent, apart 'e' (by decide), apart 'E' (by decide)]
  have found : scanNumber dialect (text.toList ++ next :: rest) =
      (some (.number text false), next :: rest) := by
    have notPoint : text.toList ≠ ['.'] := by
      intro same
      rw [same] at digits
      exact absurd (digits '.' (by simp)) (by decide)
    simp [scanNumber, taken, left, noPoint, noPower, refused, notPoint, stops,
      apart 'x' (by decide), apart 'L' (by decide)]
  cases characters : text.toList with
  | nil => exact absurd (String.toList_eq_nil_iff.mp characters) (by simpa using something)
  | cons first others =>
      rw [characters] at digits found
      have step : scanStep dialect first (others ++ next :: rest) = _ :=
        scanStep_digit (digits first List.mem_cons_self) _
      rw [← List.cons_append, found] at step
      exact tokens?_of_step step

/-- The quote that ends a text is not doubled, since the end of a word follows it. -/
theorem quoted {text : String} (unescaped : Text.isUnescaped text = true) :
    Spells dialect ("'" ++ text ++ "'") [.string .single text] := by
  intro next rest ends
  have plain : ∀ character ∈ text.toList, character ≠ '\x27' ∧ character ≠ '\x5c' := by
    intro character member
    have apart := Text.apart_of_isUnescaped unescaped character member
    simp only [List.mem_cons, not_or] at apart
    exact ⟨apart.2.1, apart.1⟩
  have notQuote : next ≠ '\x27' := ne_of_holds ends '\x27' (by decide)
  have body := untilQuote_of_plain dialect.backslashEscapes plain notQuote
    rest
  have string : scanString .single '\x27' dialect.backslashEscapes
      (text.toList ++ '\x27' :: next :: rest) =
        some (some (.string .single text), next :: rest) := by
    simp only [scanString, body, Option.map_some, String.ofList_toList]
  have single : scanStringOrTriple dialect .single .tripleSingle '\x27' dialect.backslashEscapes
      (text.toList ++ '\x27' :: next :: rest) = _ :=
    scanStringOrTriple_of_plain _ plain notQuote rest
  have announcesNone : scanAnnounced? dialect '\x27' (text.toList ++ '\x27' :: next :: rest) =
      none := by
    rw [scanAnnounced?]
    all_goals (intro body same; exact absurd same (by decide))
  have step : scanStep dialect '\x27' (text.toList ++ '\x27' :: next :: rest) =
      some (some (.string .single text), next :: rest) := by
    rw [← string, ← single]
    simp [scanStep, announcesNone, show announces dialect '\x27' = false from rfl]
  have split : ("'" ++ text ++ "'").toList ++ next :: rest =
      '\x27' :: (text.toList ++ '\x27' :: next :: rest) := by
    simp [String.toList_append]
  rw [split]
  exact tokens?_of_step step

end Spells

theorem scan_of_closed {text : String} {tokens : List Token}
    (closed : Closed dialect text tokens) : scan dialect text = some tokens := by
  have found := closed []
  rw [List.append_nil, tokens?_nil, Option.map_some, List.append_nil] at found
  rw [scan_eq_tokens?, found]

end Sql

end OrmCode
