import OrmCode.Proofs.Scan.Ink

/-!
# What is read is written

Blanks and single quotes apart, a text has at least as many characters as its tokens hold
together: no step of reading makes characters up.  A bare word is read letter for letter.
-/

namespace OrmCode

namespace Sql

variable {dialect : Dialect}

theorem accounts_scanWord (begun rest : List Char) :
    Accounts (scanWord dialect begun rest) (begun ++ rest) := by
  simp [Accounts, Token.spelling?, scanWord, List.takeWhile_append_dropWhile]

section Strings

variable {form triple : StringForm} {quote : Char} {backslash : Bool} {body rest : List Char}
  {scanned : Scanned} {first : Char}

theorem accounts_scanString (found : scanString form quote backslash body = some scanned)
    (isEnd : body <:+ rest) (counts : inkOf first = 1 ∨ form = .single ∨ form = .tripleSingle) :
    Accounts scanned (first :: rest) :=
  .string ((holds_untilQuote quote backslash body).of_suffix isEnd) found counts

theorem accounts_scanStringOrTriple
    (found : scanStringOrTriple dialect form triple quote backslash body = some scanned)
    (isEnd : body <:+ rest)
    (counts : inkOf first = 1 ∨ (form = .single ∧ triple = .tripleSingle)) :
    Accounts scanned (first :: rest) := by
  have once := counts.imp_right fun both => Or.inl (b := form = .tripleSingle) both.1
  have thrice := counts.imp_right fun both => Or.inr (a := triple = .single) both.2
  unfold scanStringOrTriple at found
  split at found
  · next second third inner _ =>
      split at found
      · have innerIsEnd : inner <:+ second :: third :: inner := ⟨[second, third], rfl⟩
        exact .string ((holds_untilThreeQuotes quote backslash inner).of_suffix
          (innerIsEnd.trans isEnd)) found thrice
      · exact accounts_scanString found isEnd once
  · exact accounts_scanString found isEnd once

theorem inkOf_of_toUpper {letter : Char} (spelled : first.toUpper = letter)
    (counts : letter ≠ ' ' ∧ letter ≠ '\x27') : inkOf first = 1 := by
  refine if_neg ?_
  rintro (rfl | rfl)
  · exact counts.1 spelled.symm
  · exact counts.2 spelled.symm

theorem accounts_scanAnnounced? (found : scanAnnounced? dialect first rest = some (some scanned)) :
    Accounts scanned (first :: rest) := by
  revert found
  fun_cases scanAnnounced? dialect first rest with
  | case1 body letter | case3 body letter | case5 body letter | case7 body letter =>
      have counts := inkOf_of_toUpper letter (by decide)
      exact fun found => accounts_scanStringOrTriple (Option.some.inj found)
        (List.suffix_cons _ _) (.inl counts)
  | case9 body letter | case13 body letter =>
      have counts := inkOf_of_toUpper letter (by decide)
      exact fun found => accounts_scanString (Option.some.inj found) (List.suffix_cons _ _)
        (.inl counts)
  | case10 body letter =>
      have counts := inkOf_of_toUpper letter (by decide)
      have holds := holds_untilEscapedQuote (body.length + 1) body
      exact fun found => .string (holds.of_suffix (List.suffix_cons _ _)) (Option.some.inj found)
        (.inl counts)
  | case11 body letter =>
      have counts := inkOf_of_toUpper letter (by decide)
      have holds := holds_untilUnicodeQuote (body.length + 1) body
      exact fun found => .string (holds.of_suffix ⟨['&', '\x27'], rfl⟩) (Option.some.inj found)
        (.inl counts)
  | _ => rintro ⟨⟩

end Strings

theorem point_append (rest : List Char) : point rest ++ rest.drop (point rest).length = rest := by
  unfold point
  cases rest with
  | nil => rfl
  | cons first rest => by_cases dot : first = '.' <;> simp [dot]

/-- A number starts with its digits before and after the point. -/
theorem mantissa_append (characters : List Char) :
    let afterWhole := characters.dropWhile Char.isDigit
    let afterDot := afterWhole.drop (point afterWhole).length
    characters.takeWhile Char.isDigit ++ point afterWhole ++ afterDot.takeWhile Char.isDigit ++
      afterDot.dropWhile Char.isDigit = characters := by
  simp only [List.append_assoc, List.takeWhile_append_dropWhile, point_append]

theorem exponent_append_drop (rest : List Char) :
    exponent rest ++ rest.drop (exponent rest).length = rest := by
  refine List.prefix_iff_eq_append.mp ?_
  cases rest with
  | nil => exact List.nil_prefix
  | cons letter rest =>
      have sign : (rest.take 1).filter (fun sign => sign == '+' || sign == '-') <+: rest := by
        cases rest with
        | nil => exact List.nil_prefix
        | cons first others =>
            by_cases signed : (first == '+' || first == '-') = true <;> simp [signed]
      rw [exponent]
      dsimp only
      split
      · split
        · exact List.nil_prefix
        · next digits _ =>
            rw [List.cons_prefix_cons]
            refine ⟨rfl, ?_⟩
            conv_rhs => rw [List.prefix_iff_eq_append.mp sign |>.symm]
            exact (List.prefix_append_right_inj _).mpr (List.takeWhile_prefix _)
      · exact List.nil_prefix

/-- A number begins with a character that counts. -/
theorem accounts_scanNumber {first : Char} {rest : List Char}
    (begins : first.isDigit = true ∨ first = '.') :
    Accounts (scanNumber dialect (first :: rest)) (first :: rest) := by
  have isEnd : (scanNumber dialect (first :: rest)).2 <:+ rest := suffix_of_scanNumber begins
  have whole := mantissa_append (first :: rest)
  have counts : inkOf first = 1 := by
    refine if_neg ?_
    rintro (rfl | rfl) <;> simp at begins
  have digits := List.takeWhile_append_dropWhile (p := Char.isDigit) (l := first :: rest)
  unfold scanNumber at isEnd ⊢
  simp only at isEnd whole ⊢
  split
  · next hexadecimal =>
      obtain ⟨zero, marked⟩ := hexadecimal
      obtain ⟨others, afterZero⟩ := List.head?_eq_some_iff.mp marked
      have kept := ink_takeWhile_add isHexadecimal others
      rw [zero, afterZero] at digits
      rw [afterZero]
      simp only [Accounts, Token.spelling?, Token.ink, String.toList_ofList,
        List.drop_succ_cons, List.drop_zero,
        ← digits, ink_append, ink_cons]
      have one : inkOf 'x' = 1 := by decide
      omega
  · next notHexadecimal =>
      rw [if_neg notHexadecimal] at isEnd
      generalize List.takeWhile Char.isDigit (first :: rest) ++ _ ++ _ = mantissa at isEnd whole ⊢
      generalize List.dropWhile Char.isDigit (List.drop _ _) = afterMantissa at isEnd whole ⊢
      have power := exponent_append_drop afterMantissa
      split
      · next notNumber =>
          rw [if_pos notNumber] at isEnd
          exact .one rfl rfl counts isEnd
      · split
        · next starts =>
            have noPower : exponent afterMantissa = [] := by simp_all
            simp [Accounts, Token.spelling?, noPower, whole]
        · split
          · next long =>
              obtain ⟨others, afterPower⟩ := List.head?_eq_some_iff.mp long
              simp only [Accounts, Token.spelling?, String.toList_ofList, if_true, ← whole,
                afterPower, List.drop_succ_cons, List.drop_zero]
              rw [List.append_assoc, List.append_assoc, List.singleton_append, ← afterPower, power]
          · simp only [Accounts, Token.spelling?, String.toList_ofList, Bool.false_eq_true,
              if_false,
              List.append_nil]
            rw [List.append_assoc, power, whole]

theorem token?_of_scanComment? {first : Char} {rest : List Char} {scanned : Scanned}
    (found : scanComment? dialect first rest = some (some scanned)) : scanned.1 = none := by
  revert found
  fun_cases scanComment? dialect first rest with
  | case1 | case3 | case5 => exact fun found => Option.some.inj (Option.some.inj found) ▸ rfl
  | case2 =>
      intro found
      obtain ⟨after, -, rfl⟩ := Option.map_eq_some_iff.mp (Option.some.inj found)
      rfl
  | _ => rintro ⟨⟩

theorem accounts_scanComment? {first : Char} {rest : List Char} {scanned : Scanned}
    (found : scanComment? dialect first rest = some (some scanned)) :
    Accounts scanned (first :: rest) := by
  have isEnd : scanned.2 <:+ rest := suffix_of_scanComment? found
  have nothing := token?_of_scanComment? found
  obtain ⟨_, after⟩ := scanned
  obtain rfl := nothing
  exact .nothing (isEnd.trans (List.suffix_cons _ _))

theorem accounts_scanSymbol {first : Char} (counts : inkOf first = 1) (rest : List Char) :
    Accounts (scanSymbol dialect first rest) (first :: rest) := by
  have isEnd : (scanSymbol dialect first rest).2 <:+ rest := suffix_of_scanSymbol first rest
  unfold scanSymbol at isEnd ⊢
  split
  · exact .one rfl rfl counts (List.suffix_refl _)
  · next text after found =>
      simp only [found] at isEnd
      dsimp only
      split
      · next extended =>
          rw [if_pos extended] at isEnd
          exact .one rfl rfl counts isEnd
      · next plain =>
          rw [if_neg plain] at isEnd
          exact .one rfl rfl counts isEnd

theorem accounts_scanSign {sign : Char} (isSign : sign = '#' ∨ sign = '@') (rest : List Char) :
    Accounts (scanSign dialect sign rest) (sign :: rest) := by
  have counts : inkOf sign = 1 := by rcases isSign with rfl | rfl <;> decide
  fun_cases scanSign dialect sign rest with
  | case1 next after _ => exact accounts_scanWord ['@', '@', next] after
  | case5 next after _ => exact accounts_scanWord ['@', next] after
  | case9 sign next after _ _ named =>
      rw [if_pos named]
      exact accounts_scanWord [sign, next] after
  | case10 _ _ _ _ _ unnamed =>
      rw [if_neg unnamed]
      exact accounts_scanSymbol counts _
  | case4 | case7 | case11 => exact accounts_scanSymbol counts _
  | case2 => exact .one rfl rfl counts (List.suffix_cons _ _)
  | _ => exact .one rfl rfl counts (List.suffix_refl _)

theorem accounts_scanQuestion (rest : List Char) :
    Accounts (scanQuestion dialect rest) ('?' :: rest) := by
  have counts : inkOf '?' = 1 := by decide
  fun_cases scanQuestion dialect rest with
  | case1 | case2 => exact .one rfl rfl counts (List.suffix_cons _ _)
  | case3 => exact .one rfl rfl counts (List.drop_suffix _ _)
  | case4 => exact .one rfl rfl counts (List.dropWhile_suffix _)

theorem accounts_scanDollar {rest : List Char} {scanned : Scanned}
    (found : scanDollar rest = some scanned) : Accounts scanned ('$' :: rest) := by
  have counts : inkOf '$' = 1 := by decide
  unfold scanDollar at found
  split at found
  · next body =>
      exact .string ((holds_untilDollars body).of_suffix (List.suffix_cons _ _)) found
        (.inl counts)
  · dsimp only at found
    split at found
    · next body closed =>
        have isEnd : body <:+ rest :=
          (List.suffix_cons _ _).trans (closed ▸ List.dropWhile_suffix _)
        exact .string ((holds_splitOnce? _ body).of_suffix isEnd) found (.inl counts)
    · obtain rfl := Option.some.inj found
      exact .one rfl rfl counts (List.dropWhile_suffix _)

/-- No step of reading makes characters up. -/
theorem accounts_scanStep {first : Char} {rest : List Char} {scanned : Scanned}
    (found : scanStep dialect first rest = some scanned) : Accounts scanned (first :: rest) := by
  have isEnd : scanned.2 <:+ rest := suffix_of_scanStep found
  have left : ∀ {other : Scanned}, some other = some scanned →
      Accounts other (first :: rest) → Accounts scanned (first :: rest) :=
    fun same accounts => Option.some.inj same ▸ accounts
  have solid : ¬(first = ' ' ∨ first = '\t' ∨ first = '\n' ∨ first = '\x0d') →
      ¬first = '\x27' → inkOf first = 1 := by
    intro notBlank notQuote
    exact if_neg fun none => none.elim (fun space => notBlank (.inl space)) notQuote
  revert found
  fun_cases scanStep dialect first rest with
  | case1 | case15 =>
      rintro ⟨⟩
      exact .nothing (List.suffix_cons _ _)
  | case2 _ announced read =>
      rintro rfl
      exact accounts_scanAnnounced? read
  | case3 | case12 => exact fun found => left found (accounts_scanWord [first] rest)
  | case4 =>
      exact fun found => accounts_scanStringOrTriple found (List.suffix_refl _) (.inr ⟨rfl, rfl⟩)
  | case5 _ _ _ quote =>
      exact fun found => accounts_scanStringOrTriple found (List.suffix_refl _)
        (.inl (quote.1 ▸ by decide))
  | case7 _ _ _ _ _ number =>
      exact fun found => left found (accounts_scanNumber (by simpa using number))
  | case8 _ _ _ _ _ _ comment read =>
      rintro rfl
      exact accounts_scanComment? read
  | case6 notBlank _ notQuote =>
      intro found
      obtain ⟨⟨text, after⟩, read, rfl⟩ := Option.map_eq_some_iff.mp found
      have kept := holds_untilNameEnd _ rest text after read
      have counts := solid notBlank notQuote
      simp only [Accounts, Token.spelling?, Token.ink, String.toList_ofList, ink_cons]
      omega
  | case9 notBlank _ notQuote =>
      exact fun found => left found
        (.one rfl rfl (solid notBlank notQuote) (List.drop_suffix _ _))
  | case10 _ _ _ _ _ _ _ sign => exact fun found => left found (accounts_scanSign sign rest)
  | case11 _ _ _ _ _ _ _ _ question =>
      exact fun found => left found (question ▸ accounts_scanQuestion rest)
  | case13 notBlank _ notQuote =>
      exact fun found => left found (accounts_scanSymbol (solid notBlank notQuote) rest)
  | case14 _ _ _ _ _ _ _ _ _ _ _ dollar =>
      exact fun found => dollar ▸ accounts_scanDollar found
  | case16 notBlank _ notQuote =>
      exact fun found => left found
        (.one rfl rfl (solid notBlank notQuote) (List.suffix_refl _))

/-- The tokens of some characters hold no more than these count. -/
theorem held_le_ink {characters : List Char} {tokens : List Token}
    (found : tokens? dialect characters = some tokens) : held tokens ≤ ink characters := by
  induction long : characters.length using Nat.strongRecOn generalizing characters tokens with
  | _ length induction =>
      cases characters with
      | nil =>
          obtain rfl := Option.some.inj found
          exact Nat.le_refl 0
      | cons first rest =>
          rw [tokens?_cons] at found
          obtain ⟨⟨token?, after⟩, step, others⟩ := Option.bind_eq_some_iff.mp found
          obtain ⟨later, read, rfl⟩ := Option.map_eq_some_iff.mp others
          have shorter := (suffix_of_scanStep step).length_le
          rw [List.length_cons] at long
          have bound := induction after.length (by omega) read rfl
          have taken := (accounts_scanStep step).ink_le
          cases token? <;> simp at taken ⊢ <;> omega

end Sql

end OrmCode
