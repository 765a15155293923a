import OrmCode.Proofs.Scan.Account
import OrmCode.Proofs.Scan.Plain

/-!
# Bare names

A name that is read as one bare word on its own is read so before a blank as well, whatever
follows.
-/

namespace OrmCode

namespace Sql

variable {dialect : Dialect}

/-- Each token of a text is read off by some step. -/
theorem exists_step_of_mem {characters : List Char} {tokens : List Token}
    (found : tokens? dialect characters = some tokens) {token : Token} (member : token ∈ tokens) :
    ∃ first rest after, first :: rest <:+ characters ∧
      scanStep dialect first rest = some (some token, after) := by
  induction long : characters.length using Nat.strongRecOn generalizing characters tokens with
  | _ length induction =>
      cases characters with
      | nil =>
          obtain rfl := Option.some.inj found
          cases member
      | cons first rest =>
          rw [tokens?_cons] at found
          obtain ⟨⟨token?, after⟩, step, others⟩ := Option.bind_eq_some_iff.mp found
          obtain ⟨later, read, rfl⟩ := Option.map_eq_some_iff.mp others
          have isEnd := suffix_of_scanStep step
          rcases List.mem_append.mp member with here | there
          · obtain rfl := Option.mem_toList.mp here
            exact ⟨first, rest, after, List.suffix_refl _, step⟩
          · have shorter := isEnd.length_le
            rw [List.length_cons] at long
            obtain ⟨next, others, left, inside, read⟩ :=
              induction after.length (by omega) read there rfl
            exact ⟨next, others, left, inside.trans (isEnd.trans (List.suffix_cons _ _)), read⟩

/-- A bare word or a number stands in the text that it is read off. -/
theorem infix_of_mem {characters : List Char} {tokens : List Token}
    (found : tokens? dialect characters = some tokens) {token : Token} (member : token ∈ tokens)
    {spelling : List Char} (spelled : token.spelling? = some spelling) :
    spelling <:+: characters := by
  obtain ⟨first, rest, after, isEnd, step⟩ := exists_step_of_mem found member
  have written := (accounts_scanStep step).spelled spelled
  exact (written ▸ (List.prefix_append _ _).isInfix : spelling <:+: first :: rest).trans
    isEnd.isInfix

/-- A bare word or a number that a text is read as is read off it by one step. -/
theorem scanStep_of_only {characters : List Char} {token : Token}
    (found : tokens? dialect characters = some [token])
    (spelled : token.spelling? = some characters) :
    ∃ first rest, characters = first :: rest ∧
      scanStep dialect first rest = some (some token, []) := by
  cases characters with
  | nil => cases found
  | cons first rest =>
      rw [tokens?_cons] at found
      obtain ⟨⟨token?, after⟩, step, others⟩ := Option.bind_eq_some_iff.mp found
      obtain ⟨later, read, tokens⟩ := Option.map_eq_some_iff.mp others
      refine ⟨first, rest, rfl, ?_⟩
      cases token? with
      | none =>
          -- The token would stand in what is left of the text behind a blank or comment.
          obtain rfl : later = [token] := tokens
          have inside := (infix_of_mem read (List.mem_singleton_self _) spelled).length_le
          have shorter := (suffix_of_scanStep step).length_le
          rw [List.length_cons] at inside
          omega
      | some other =>
          obtain ⟨rfl, rfl⟩ := List.cons.inj tokens
          have written := (accounts_scanStep step).spelled spelled
          rw [List.append_right_eq_self] at written
          rw [step, written]

theorem token?_of_scanStringOrTriple {form triple : StringForm} {quote : Char} {backslash : Bool}
    {rest : List Char} {scanned : Scanned}
    (found : scanStringOrTriple dialect form triple quote backslash rest = some scanned) :
    ∃ form text, scanned.1 = some (.string form text) := by
  revert found
  fun_cases scanStringOrTriple dialect form triple quote backslash rest
  all_goals
    intro found
    obtain ⟨⟨text, after⟩, -, rfl⟩ := Option.map_eq_some_iff.mp found
    exact ⟨_, _, rfl⟩

theorem token?_of_scanAnnounced? {first : Char} {rest : List Char} {scanned : Scanned}
    (found : scanAnnounced? dialect first rest = some (some scanned)) :
    ∃ form text, scanned.1 = some (.string form text) := by
  revert found
  fun_cases scanAnnounced? dialect first rest with
  | case1 | case3 | case5 | case7 =>
      exact fun found => token?_of_scanStringOrTriple (Option.some.inj found)
  | case9 | case13 | case10 | case11 =>
      intro found
      obtain ⟨⟨text, after⟩, -, rfl⟩ := Option.map_eq_some_iff.mp (Option.some.inj found)
      exact ⟨_, _, rfl⟩
  | _ => rintro ⟨⟩

theorem scanStep_quote (rest : List Char) :
    scanStep dialect '\x27' rest =
      scanStringOrTriple dialect .single .tripleSingle '\x27' dialect.backslashEscapes rest := by
  have noString : scanAnnounced? dialect '\x27' rest = none := by simp [scanAnnounced?]
  simp [scanStep, noString, show announces dialect '\x27' = false from rfl]

section Spelled

variable {token : Token} {spelling : List Char} (spelled : token.spelling? = some spelling)

include spelled

/-- No bare word or number is read off as a symbol. -/
theorem scanSymbol_ne_spelled (first : Char) (rest : List Char) :
    (scanSymbol dialect first rest).1 ≠ some token := by
  unfold scanSymbol
  split
  · rintro ⟨⟩
    cases spelled
  · dsimp only
    split <;> (rintro ⟨⟩; cases spelled)

theorem scanQuestion_ne_spelled (rest : List Char) :
    (scanQuestion dialect rest).1 ≠ some token := by
  fun_cases scanQuestion dialect rest <;> (rintro ⟨⟩; cases spelled)

theorem scanDollar_ne_spelled {rest : List Char} {scanned : Scanned}
    (found : scanDollar rest = some scanned) : scanned.1 ≠ some token := by
  intro same
  unfold scanDollar at found
  split at found
  · obtain ⟨read, -, rfl⟩ := Option.map_eq_some_iff.mp found
    cases same
    cases spelled
  · dsimp only at found
    split at found
    · obtain ⟨read, -, rfl⟩ := Option.map_eq_some_iff.mp found
      cases same
      cases spelled
    · obtain rfl := Option.some.inj found
      cases same
      cases spelled

end Spelled

/-- No bare word starts with a quote or bracket that opens names. -/
theorem opensQuotedName_of_scanStep {first : Char} {rest after : List Char} {text : String}
    (found : scanStep dialect first rest = some (some (.word text none), after)) :
    dialect.opensQuotedName first = false := by
  rw [← Bool.not_eq_true]
  intro opens
  have quote : first = '\x60' ∨ first = '\x22' ∨ first = '[' := by
    cases dialect <;> simp [Dialect.opensQuotedName] at opens <;> tauto
  have plain : announces dialect first = false ∧ first.isDigit = false ∧ first ≠ '.' ∧
      dialect.startsName first = false := by
    rcases quote with rfl | rfl | rfl <;> cases dialect <;> decide
  have noString : scanAnnounced? dialect first rest = none := by
    rcases quote with rfl | rfl | rfl <;> simp [scanAnnounced?]
  obtain ⟨noLetter, noDigit, noPoint, noStart⟩ := plain
  revert found
  fun_cases scanStep dialect first rest with
  | case2 _ announced read => cases noString.symm.trans read
  | case3 _ letter => simp [noLetter] at letter
  | case4 _ _ single => simp [single] at quote
  | case5 _ _ _ double => simp [double.2] at opens
  | case6 =>
      intro found
      obtain ⟨read, -, same⟩ := Option.map_eq_some_iff.mp found
      cases same
  | case7 _ _ _ _ _ number => simp [noDigit, noPoint] at number
  | case8 _ _ _ _ _ _ comment read =>
      rintro rfl
      cases token?_of_scanComment? read
  | case10 _ _ _ _ _ _ _ sign => rcases sign with rfl | rfl <;> simp at quote
  | case11 _ _ _ _ _ _ _ _ question => simp [question] at quote
  | case12 _ _ _ _ _ _ _ _ _ start => simp [noStart] at start
  | case13 =>
      exact fun found => absurd (congrArg Prod.fst (Option.some.inj found))
        (scanSymbol_ne_spelled rfl first rest)
  | case14 _ _ _ _ _ _ _ _ _ _ _ dollar => simp [dollar] at quote
  | _ => rintro ⟨⟩

theorem scanAnnounced?_of_word {first : Char} {rest after : List Char} {text : String}
    (found : scanStep dialect first rest = some (some (.word text none), after)) :
    scanAnnounced? dialect first rest = none := by
  cases announced : scanAnnounced? dialect first rest with
  | none => rfl
  | some scanned? =>
      rw [scanStep] at found
      by_cases blank : first = ' ' ∨ first = '\t' ∨ first = '\n' ∨ first = '\x0d'
      · rw [if_pos blank] at found
        cases found
      · rw [if_neg blank, announced] at found
        obtain rfl : scanned? = some (some (.word text none), after) := found
        obtain ⟨form, string, same⟩ := token?_of_scanAnnounced? announced
        cases same

theorem scanComment?_of_word {first : Char} {rest after : List Char} {text : String}
    (found : scanStep dialect first rest = some (some (.word text none), after)) :
    scanComment? dialect first rest = none := by
  cases comment : scanComment? dialect first rest with
  | none => rfl
  | some scanned? =>
      rw [scanStep_of_comment comment] at found
      subst found
      cases token?_of_scanComment? comment

theorem noQuestion_of_word {first : Char} {rest after : List Char} {text : String}
    (found : scanStep dialect first rest = some (some (.word text none), after)) :
    ¬(dialect = .postgresql ∧ first = '?') := by
  rintro ⟨rfl, rfl⟩
  rw [scanStep_question] at found
  exact scanQuestion_ne_spelled rfl rest (congrArg Prod.fst (Option.some.inj found))

theorem scanComment?_append_isSome {first : Char} {rest : List Char}
    (comment : (scanComment? dialect first rest).isSome = true) (more : List Char) :
    (scanComment? dialect first (rest ++ more)).isSome = true := by
  revert comment
  fun_cases scanComment? dialect first rest <;> simp_all [scanComment?]

/-- A sign that waits for a name. -/
theorem eq_of_waits {first : Char} {rest : List Char}
    (waiting : (first = '#' ∨ first = '@') ∧ waits dialect first rest = true) :
    (first = '#' ∧ rest = []) ∨ (first = '@' ∧ (rest = [] ∨ rest = ['@'])) := by
  obtain ⟨sign, waiting⟩ := waiting
  simp only [waits, Bool.and_eq_true, Bool.or_eq_true, beq_iff_eq] at waiting
  tauto

/-- What is read as a bare word, at the end or before a blank, leaves nothing open. -/
theorem not_hangs_of_word {first : Char} {rest more after : List Char} {text : String}
    (found : scanStep dialect first (rest ++ more) = some (some (.word text none), after))
    (bounded : more = [] ∨ ∃ tail, more = ' ' :: tail) : hangs dialect first rest = false := by
  have noSign : ¬((first = '#' ∨ first = '@') ∧ waits dialect first rest = true) := by
    intro waiting
    have other : ∀ scanned, scanStep dialect first (rest ++ more) = some scanned →
        scanned.1 ≠ some (.word text none) := by
      rcases bounded with rfl | ⟨tail, rfl⟩ <;>
        rcases eq_of_waits waiting with ⟨rfl, rfl⟩ | ⟨rfl, rfl | rfl⟩ <;> cases dialect <;>
          rintro _ ⟨⟩ ⟨⟩
    exact other _ found rfl
  rw [hangs, bracketWaits, opensQuotedName_of_scanStep found, Bool.and_false, Bool.false_and,
    Bool.or_false]
  simpa using noSign

/-- A word that is read before a blank is read where nothing follows. -/
theorem scanStep_of_before_blank {first : Char} {rest tail : List Char} {text : String}
    (found : scanStep dialect first (rest ++ ' ' :: tail) =
      some (some (.word text none), ' ' :: tail)) :
    scanStep dialect first rest = some (some (.word text none), []) := by
  have separates : dialect.separates ' ' = true := by cases dialect <;> decide
  have space : Text.isBlank ' ' = true := by decide
  have unopened := opensQuotedName_of_scanStep found
  have noComment : scanComment? dialect first rest = none := by
    by_contra comment
    have longer :=
      scanComment?_append_isSome (Option.isSome_iff_ne_none.mpr comment) (' ' :: tail)
    rw [scanComment?_of_word found] at longer
    cases longer
  have stays := not_hangs_of_word found (.inr ⟨tail, rfl⟩)
  have noQuestion := noQuestion_of_word found
  cases short : scanStep dialect first rest with
  | some scanned =>
      obtain ⟨token?, after⟩ := scanned
      have longer := (settled_scanStep separates noComment stays noQuestion short).2 tail
      obtain ⟨rfl, same⟩ := Prod.mk.inj (Option.some.inj (longer.symm.trans found))
      rw [List.append_left_eq_self] at same
      rw [same]
  | none =>
      exfalso
      revert short
      fun_cases scanStep dialect first rest with
      | case2 plain announced read =>
          obtain ⟨scan, body, -, -, -, again⟩ := announced_append space read
          cases (again tail).symm.trans (scanAnnounced?_of_word found)
      | case4 _ _ single =>
          rw [single, scanStep_quote] at found
          obtain ⟨form, string, same⟩ := token?_of_scanStringOrTriple found
          cases same
      | case5 plain _ _ double =>
          obtain ⟨rfl, unquoted⟩ := double
          have noLetter : announces dialect '\x22' = false := by cases dialect <;> rfl
          simp only [scanStep, scanAnnounced?_of_word found, noLetter, unquoted, and_self,
            if_true] at found
          obtain ⟨form, string, same⟩ := token?_of_scanStringOrTriple found
          cases same
      | case6 _ _ _ _ quotes => simp [quotesName, unopened] at quotes
      | case8 _ _ _ _ _ _ comment read => cases noComment.symm.trans read
      | case14 _ noLetter _ _ _ _ _ _ _ unnamed unsigned dollar =>
          subst dollar
          rw [← symbolAtStart?_isSome space '$' rest tail] at unsigned
          have noComment : scanComment? dialect '$' (rest ++ ' ' :: tail) = none := by
            simp [scanComment?]
          simp [scanStep, scanAnnounced?_of_word found, noLetter, quotesName, unopened, noComment,
            unnamed, unsigned] at found
          exact absurd rfl (scanDollar_ne_spelled rfl found)
      | _ => rintro ⟨⟩

/-- A name on its own is one bare word. -/
def Dialect.IsBareName (dialect : Dialect) (name : String) : Prop :=
  scan dialect name = some [.word name none]

namespace Dialect.IsBareName

variable {name : String}

/-- One step of reading takes a bare name. -/
theorem step (bare : dialect.IsBareName name) :
    ∃ first rest, name.toList = first :: rest ∧
      scanStep dialect first rest = some (some (.word name none), []) := by
  rw [IsBareName, scan_eq_tokens?] at bare
  exact scanStep_of_only bare rfl

/-- A bare name is read as one word before a blank. -/
theorem tokens? (bare : dialect.IsBareName name) (tail : List Char) :
    Sql.tokens? dialect (name.toList ++ ' ' :: tail) =
      (Sql.tokens? dialect tail).map (.word name none :: ·) := by
  obtain ⟨first, rest, characters, step⟩ := bare.step
  have separates : dialect.separates ' ' = true := by cases dialect <;> decide
  have stays : hangs dialect first rest = false :=
    not_hangs_of_word (rest.append_nil.symm ▸ step) (.inl rfl)
  have settled := settled_scanStep separates (scanComment?_of_word step) stays
    (noQuestion_of_word step) step
  have blank : scanStep dialect ' ' tail = some (none, tail) := rfl
  rw [characters, List.cons_append, tokens?_of_step (settled.2 tail), List.nil_append,
    tokens?_of_step blank, Option.map_map]
  rfl

/-- Bare names before blanks are read as one word each. -/
theorem tokens?_words {words : List String} (bare : ∀ word ∈ words, dialect.IsBareName word)
    (tail : List Char) :
    Sql.tokens? dialect (words.foldr (fun word rest => word.toList ++ ' ' :: rest) tail) =
      (Sql.tokens? dialect tail).map (words.map (Token.word · none) ++ ·) := by
  induction words with
  | nil => simp
  | cons word words induction =>
      obtain ⟨here, later⟩ := List.forall_mem_cons.mp bare
      rw [List.foldr_cons, here.tokens?, induction later, Option.map_map]
      rfl

/-- A name is bare if it is read as a bare word before a blank and nothing that counts is
passed over. -/
theorem of_tokens? {tail : List Char} {later : List Token}
    (found : Sql.tokens? dialect (name.toList ++ ' ' :: tail) = some (.word name none :: later))
    (tight : ink tail ≤ held later) :
    dialect.IsBareName name ∧ Sql.tokens? dialect tail = some later := by
  obtain ⟨first, rest, after, -, step⟩ := exists_step_of_mem found List.mem_cons_self
  have written : name.toList ++ after = first :: rest := (accounts_scanStep step).spelled rfl
  cases characters : name.toList with
  | nil =>
      have shorter := (suffix_of_scanStep step).length_le
      rw [characters, List.nil_append] at written
      have longer := congrArg List.length written
      rw [List.length_cons] at longer
      omega
  | cons letter others =>
      rw [characters, List.cons_append] at written
      obtain ⟨rfl, -⟩ := List.cons.inj written
      have counts : inkOf letter = 1 := by
        refine if_neg ?_
        rintro (rfl | rfl)
        · have blank : scanStep dialect ' ' rest = some (none, rest) := rfl
          cases blank.symm.trans step
        · obtain ⟨form, text, same⟩ := token?_of_scanStringOrTriple (scanStep_quote rest ▸ step)
          cases same
      rw [characters, List.cons_append, tokens?_cons] at found
      obtain ⟨⟨token?, left⟩, here, remaining⟩ := Option.bind_eq_some_iff.mp found
      obtain ⟨tokens, read, same⟩ := Option.map_eq_some_iff.mp remaining
      cases token? with
      | none =>
          obtain rfl : tokens = .word name none :: later := same
          have bound := held_le_ink read
          have kept := ink_le_of_suffix (suffix_of_scanStep here)
          have blank : inkOf ' ' = 0 := rfl
          simp only [held_cons, Token.ink, characters, ink_cons, counts,
            ink_append, blank] at bound kept
          omega
      | some token =>
          obtain ⟨rfl, rfl⟩ := List.cons.inj same
          have whole : name.toList ++ left = letter :: (others ++ ' ' :: tail) :=
            (accounts_scanStep here).spelled rfl
          rw [characters, List.cons_append, List.cons.injEq, List.append_cancel_left_eq] at whole
          obtain ⟨-, rfl⟩ := whole
          have blank : scanStep dialect ' ' tail = some (none, tail) := rfl
          rw [tokens?_of_step blank] at read
          refine ⟨?_, by simpa using read⟩
          rw [IsBareName, scan_eq_tokens?, characters,
            tokens?_of_step (scanStep_of_before_blank here)]
          rfl

end Dialect.IsBareName

end Sql

end OrmCode
