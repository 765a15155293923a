import OrmCode.Proofs.Scan.Tokens

/-!
# Characters that count

Of a text and of its tokens all characters count but blanks and single quotes, which a quoted
text may double.  What a scanner reads holds no more than it takes.
-/

namespace OrmCode

namespace Sql

variable {dialect : Dialect}

/-- What a character counts: nothing if it is a blank or a quote that may be doubled. -/
def inkOf (character : Char) : Nat :=
  if character = ' ' ∨ character = '\x27' then 0 else 1

/-- How many characters count. -/
def ink : List Char → Nat
  | [] => 0
  | first :: rest => inkOf first + ink rest

@[simp] theorem ink_nil : ink [] = 0 := rfl

@[simp] theorem ink_cons (first : Char) (rest : List Char) :
    ink (first :: rest) = inkOf first + ink rest := rfl

@[simp] theorem ink_append (first second : List Char) :
    ink (first ++ second) = ink first + ink second := by
  induction first with
  | nil => simp
  | cons letter first induction => simp [induction, Nat.add_assoc]

theorem inkOf_le (character : Char) : inkOf character ≤ 1 := by
  unfold inkOf
  split <;> decide

theorem ink_le_of_suffix {after characters : List Char} (isEnd : after <:+ characters) :
    ink after ≤ ink characters := by
  obtain ⟨before, rfl⟩ := isEnd
  simp

theorem ink_takeWhile_add (accepts : Char → Bool) (characters : List Char) :
    ink (characters.takeWhile accepts) + ink (characters.dropWhile accepts) = ink characters := by
  rw [← ink_append, List.takeWhile_append_dropWhile]

/-- What a scanner reads and what it leaves counts no more than the characters before. -/
def Holds (read? : Option (List Char × List Char)) (characters : List Char) : Prop :=
  ∀ text after, read? = some (text, after) → ink text + ink after ≤ ink characters

namespace Holds

variable {read? : Option (List Char × List Char)} {characters rest : List Char}

theorem none (characters : List Char) : Holds .none characters := nofun

theorem empty (isEnd : rest <:+ characters) : Holds (some ([], rest)) characters := by
  rintro _ _ ⟨⟩
  have kept := ink_le_of_suffix isEnd
  simpa using kept

/-- One more character is read if enough is taken for it. -/
theorem map (holds : Holds read? rest) {character : Char}
    (more : inkOf character + ink rest ≤ ink characters) :
    Holds (read?.map fun (text, after) => (character :: text, after)) characters := by
  intro text after found
  obtain ⟨⟨inner, left⟩, read, same⟩ := Option.map_eq_some_iff.mp found
  obtain ⟨rfl, rfl⟩ := Prod.mk.inj same
  have kept := holds inner left read
  rw [ink_cons]
  omega

theorem bind {character? : Option (Char × List Char)}
    {next : Char × List Char → Option (List Char × List Char)}
    (each : ∀ found, character? = some found → Holds (next found) characters) :
    Holds (character?.bind next) characters := by
  intro text after found
  obtain ⟨character, read, others⟩ := Option.bind_eq_some_iff.mp found
  exact each character read text after others

theorem of_suffix (holds : Holds read? rest) (isEnd : rest <:+ characters) :
    Holds read? characters :=
  fun text after found => (holds text after found).trans (ink_le_of_suffix isEnd)

end Holds

theorem holds_untilQuote (quote : Char) (backslash : Bool) (characters : List Char) :
    Holds (untilQuote quote backslash characters) characters := by
  fun_induction untilQuote quote backslash characters with
  | case1 | case3 => exact .none _
  | case2 => exact .empty List.nil_suffix
  | case4 rest induction => exact induction.map (by simp)
  | case5 next rest => exact .empty (List.suffix_cons _ _)
  | case6 character next rest _ escape induction =>
      refine induction.map ?_
      have one : inkOf character = 1 := by
        rw [escape.1]
        decide
      have counts := inkOf_le (escapeValue next)
      rw [ink_cons, ink_cons]
      omega
  | case7 character next rest _ _ induction => exact induction.map (Nat.le_refl _)

theorem holds_untilThreeQuotes (quote : Char) (backslash : Bool) (characters : List Char) :
    Holds (untilThreeQuotes quote backslash characters) characters := by
  fun_induction untilThreeQuotes quote backslash characters with
  | case1 | case2 => exact .none _
  | case3 character next rest escape induction =>
      refine induction.map ?_
      have one : inkOf character = 1 := by
        rw [escape.1]
        decide
      have counts := inkOf_le (escapeValue next)
      rw [ink_cons, ink_cons]
      omega
  | case4 character next rest =>
      exact .empty ((List.drop_suffix 1 rest).trans
        ((List.suffix_cons _ _).trans (List.suffix_cons _ _)))
  | case5 character next rest _ _ induction => exact induction.map (Nat.le_refl _)

theorem holds_untilNameEnd (closing : Char) (characters : List Char) :
    Holds (untilNameEnd closing characters) characters := by
  rw [untilNameEnd_eq]
  exact holds_untilQuote closing false characters

theorem suffix_of_byCode? {count : Nat} {characters after : List Char} {character : Char}
    (found : byCode? count characters = some (character, after)) : after <:+ characters :=
  (@settled_byCode? ' ' count characters _ _ found).1

/-- A character that an escape stands for counts no more than the backslash. -/
theorem inkOf_add_le {character : Char} {left rest : List Char} (isEnd : left <:+ rest) :
    inkOf character + ink left ≤ ink ('\x5c' :: rest) := by
  have one : inkOf '\x5c' = 1 := by decide
  have counts := inkOf_le character
  have kept := ink_le_of_suffix isEnd
  rw [ink_cons, one]
  omega

theorem holds_untilEscapedQuote (fuel : Nat) (characters : List Char) :
    Holds (untilEscapedQuote fuel characters) characters := by
  fun_induction untilEscapedQuote fuel characters with
  | case1 | case2 => exact .none _
  | case3 fuel rest induction => exact induction.map (by simp)
  | case4 fuel rest => exact .empty (List.suffix_cons _ _)
  | case5 fuel rest induction =>
      refine .bind fun (character, left) read => ?_
      have isEnd := (settled_unescape? (by decide : Text.isBlank ' ' = true) rest read).1
      dsimp only
      split
      · exact .none _
      · exact (induction left).map (inkOf_add_le isEnd)
  | case6 fuel character rest _ _ _ induction => exact induction.map (Nat.le_refl _)

theorem holds_untilUnicodeQuote (fuel : Nat) (characters : List Char) :
    Holds (untilUnicodeQuote fuel characters) characters := by
  fun_induction untilUnicodeQuote fuel characters with
  | case1 | case2 => exact .none _
  | case3 fuel rest induction => exact induction.map (by simp)
  | case4 fuel rest => exact .empty (List.suffix_cons _ _)
  | case5 fuel rest induction => exact induction.map (by simp)
  | case6 fuel rest induction =>
      refine .bind fun (character, left) read => ?_
      exact (induction left).map
        (inkOf_add_le ((suffix_of_byCode? read).trans (List.suffix_cons _ _)))
  | case7 fuel rest _ _ induction =>
      refine .bind fun (character, left) read => ?_
      exact (induction left).map (inkOf_add_le (suffix_of_byCode? read))
  | case8 fuel character rest _ _ _ _ _ induction => exact induction.map (Nat.le_refl _)

theorem holds_untilDollars (characters : List Char) :
    Holds (untilDollars characters) characters := by
  fun_induction untilDollars characters with
  | case1 | case2 => exact .none _
  | case3 rest => exact .empty ((List.suffix_cons _ _).trans (List.suffix_cons _ _))
  | case4 character next rest _ induction => exact induction.map (Nat.le_refl _)

theorem holds_splitOnce? (separator characters : List Char) :
    Holds (Text.splitOnce? separator characters) characters := by
  fun_induction Text.splitOnce? separator characters with
  | case1 =>
      intro text after found
      obtain ⟨left, read, same⟩ := Option.map_eq_some_iff.mp found
      obtain ⟨rfl, rfl⟩ := Prod.mk.inj same
      simpa using ink_le_of_suffix (Text.suffix_of_afterStart? read)
  | case2 character rest remainder read => exact .empty (Text.suffix_of_afterStart? read)
  | case3 character rest _ induction => exact induction.map (Nat.le_refl _)

/-- What a token holds of the characters that count.  A quoted text also has a quote that
counts or a letter before it, unless single quotes are all that it has. -/
def Token.ink : Token → Nat
  | word text none => Sql.ink text.toList
  | word text (some _) => Sql.ink text.toList + 1
  | number numeral long => Sql.ink numeral.toList + if long then 1 else 0
  | string .single text | string .tripleSingle text => Sql.ink text.toList
  | string _ text => Sql.ink text.toList + 1
  | placeholder _ | operator _ | symbol _ | stray _ => 1

/-- How many characters that count some tokens hold. -/
def held : List Token → Nat
  | [] => 0
  | token :: rest => token.ink + held rest

@[simp] theorem held_nil : held [] = 0 := rfl

@[simp] theorem held_cons (token : Token) (rest : List Token) :
    held (token :: rest) = token.ink + held rest := rfl

@[simp] theorem held_append (first second : List Token) :
    held (first ++ second) = held first + held second := by
  induction first with
  | nil => simp
  | cons token first induction => simp [induction, Nat.add_assoc]

/-- The characters that a bare word or a number is read from, no others. -/
def Token.spelling? : Token → Option (List Char)
  | word text none => some text.toList
  | number numeral long => some (numeral.toList ++ if long then ['L'] else [])
  | _ => none

theorem Token.ink_of_spelling? {token : Token} {spelling : List Char}
    (spelled : token.spelling? = some spelling) : token.ink = Sql.ink spelling := by
  cases token with
  | word text quote? =>
      cases quote? with
      | none => rw [← Option.some.inj spelled, ink]
      | some quote => cases spelled
  | number numeral long =>
      rw [← Option.some.inj spelled, ink, ink_append]
      cases long <;> rfl
  | _ => cases spelled

/-- A step of reading takes at least what its token holds, and a bare word or a number
letter for letter. -/
def Accounts (scanned : Scanned) (characters : List Char) : Prop :=
  match scanned.1 with
  | none => ink scanned.2 ≤ ink characters
  | some token =>
    match token.spelling? with
    | some spelling => spelling ++ scanned.2 = characters
    | none => token.ink + ink scanned.2 ≤ ink characters

namespace Accounts

variable {characters rest after : List Char}

theorem ink_le {token? : Option Token} (accounts : Accounts (token?, after) characters) :
    (token?.elim 0 Token.ink) + ink after ≤ ink characters := by
  cases token? with
  | none => exact (Nat.zero_add _).trans_le accounts
  | some token =>
      cases spelled : token.spelling? with
      | none =>
          simp only [Accounts, spelled] at accounts
          exact accounts
      | some spelling =>
          simp only [Accounts, spelled] at accounts
          simp [← accounts, Token.ink_of_spelling? spelled]

theorem spelled {token : Token} (accounts : Accounts (some token, after) characters)
    {spelling : List Char} (spelled : token.spelling? = some spelling) :
    spelling ++ after = characters := by
  simpa only [Accounts, spelled] using accounts

theorem nothing (isEnd : after <:+ characters) : Accounts (none, after) characters :=
  ink_le_of_suffix isEnd

/-- A token that holds one character that counts, the first of those it is read from. -/
theorem one {token : Token} (holds : token.ink = 1) (unspelled : token.spelling? = none)
    {first : Char} (counts : inkOf first = 1) (isEnd : after <:+ rest) :
    Accounts (some token, after) (first :: rest) := by
  have kept := ink_le_of_suffix isEnd
  simp only [Accounts, unspelled, ink_cons]
  omega

theorem ink_string_le {form : StringForm} {first : Char}
    (counts : inkOf first = 1 ∨ form = .single ∨ form = .tripleSingle) (text : String) :
    (Token.string form text).ink ≤ Sql.ink text.toList + inkOf first := by
  rcases counts with counts | rfl | rfl
  · rw [counts]
    cases form <;> simp [Token.ink]
  · exact Nat.le_add_right _ _
  · exact Nat.le_add_right _ _

theorem string {read? : Option (List Char × List Char)} (holds : Holds read? rest)
    {form : StringForm} {scanned : Scanned}
    (found : read?.map (fun (text, after) =>
      (some (.string form (String.ofList text)), after)) = some scanned)
    {first : Char} (counts : inkOf first = 1 ∨ form = .single ∨ form = .tripleSingle) :
    Accounts scanned (first :: rest) := by
  obtain ⟨⟨text, after⟩, read, rfl⟩ := Option.map_eq_some_iff.mp found
  have kept := holds text after read
  have bound := ink_string_le counts (String.ofList text)
  rw [String.toList_ofList] at bound
  show (Token.string form (String.ofList text)).ink + ink after ≤ ink (first :: rest)
  rw [ink_cons]
  omega

end Accounts

end Sql

end OrmCode
