import OrmCode.Proofs.Scan.Settled

/-!
# Escapes before a blank

A blank is no digit, so that it ends a code of digits.  A string with escapes is the same before
a blank, and the fuel that it is read with does not matter where it is enough.
-/

namespace OrmCode

namespace Sql

variable {Value : Type} {blank : Char}

/-- Characters of some kind among the next few. -/
theorem takeWhile_take_append_blank {accepts : Char → Bool} (refused : accepts blank = false)
    (count : Nat) (characters tail : List Char) :
    ((characters ++ blank :: tail).take count).takeWhile accepts =
      (characters.take count).takeWhile accepts := by
  rw [List.take_append]
  cases rest : count - characters.length with
  | zero => rw [List.take_zero, List.append_nil]
  | succ more => rw [List.take_succ_cons, takeWhile_append_blank _ refused]

theorem settled_byCode? (count : Nat) (characters : List Char) :
    SettledAt blank (byCode? count) characters := by
  by_cases digits : (characters.take count).length = count ∧
      (characters.take count).all isHexadecimal = true
  · have enough : count ≤ characters.length := by
      rw [← digits.1, List.length_take]
      exact Nat.min_le_right _ _
    have same : ∀ tail, (characters ++ blank :: tail).take count = characters.take count :=
      fun tail => List.take_append_of_le_length enough
    have left : ∀ tail, (characters ++ blank :: tail).drop count =
        characters.drop count ++ blank :: tail :=
      fun tail => List.drop_append_of_le_length enough
    cases found : characterOf? (valueOf 16 (characters.take count)) with
    | none => exact .of_none (by rw [byCode?, if_pos digits, found]; rfl)
    | some character =>
        refine .of_some character (characters.drop count)
          (by rw [byCode?, if_pos digits, found]; rfl) (List.drop_suffix _ _) fun tail => ?_
        rw [byCode?, same, if_pos digits, found, left]
        rfl
  · exact .of_none (by rw [byCode?, if_neg digits])

theorem isHexadecimal_of_isBlank (isBlank : Text.isBlank blank = true) :
    isHexadecimal blank = false := by
  simpa using Text.of_isBlank (fun character => !isHexadecimal character) isBlank (by decide)

theorem isOctal_of_isBlank (isBlank : Text.isBlank blank = true) : isOctal blank = false := by
  simpa using Text.of_isBlank (fun character => !isOctal character) isBlank (by decide)

theorem isOperatorCharacter_of_isBlank (isBlank : Text.isBlank blank = true) :
    isOperatorCharacter blank = false := by
  simpa using Text.of_isBlank (fun character => !isOperatorCharacter character) isBlank (by decide)

/-- A character given by its code in a few digits that come next. -/
theorem settledAt_of_digits {scan : List Char → Option (Char × List Char)}
    {characters rest : List Char} {accepts : Char → Bool} (refused : accepts blank = false)
    (count : Nat) (value? : List Char → Option Char) (isEnd : rest <:+ characters)
    (here : scan characters = (value? ((rest.take count).takeWhile accepts)).map fun character =>
      (character, rest.drop ((rest.take count).takeWhile accepts).length))
    (there : ∀ tail, scan (characters ++ blank :: tail) =
      (value? (((rest ++ blank :: tail).take count).takeWhile accepts)).map fun character =>
        (character, (rest ++ blank :: tail).drop
          (((rest ++ blank :: tail).take count).takeWhile accepts).length)) :
    SettledAt blank scan characters := by
  have short : ((rest.take count).takeWhile accepts).length ≤ rest.length :=
    (List.takeWhile_prefix accepts).length_le.trans (List.take_prefix count rest).length_le
  simp only [takeWhile_take_append_blank refused, List.drop_append_of_le_length short] at there
  cases found : value? ((rest.take count).takeWhile accepts) with
  | none => exact .of_none (by rw [here, found]; rfl)
  | some character =>
      exact .of_some character _ (by rw [here, found]; rfl) ((List.drop_suffix _ _).trans isEnd)
        fun tail => by rw [there tail, found]; rfl

theorem settled_unescape? (isBlank : Text.isBlank blank = true) (characters : List Char) :
    SettledAt blank unescape? characters := by
  fun_cases unescape? characters with
  | case1 => exact .of_none rfl
  | case2 rest => exact .of_some '\x08' rest rfl (List.suffix_cons _ _) fun tail => rfl
  | case3 rest => exact .of_some '\x0c' rest rfl (List.suffix_cons _ _) fun tail => rfl
  | case4 rest => exact .of_some '\n' rest rfl (List.suffix_cons _ _) fun tail => rfl
  | case5 rest => exact .of_some '\x0d' rest rfl (List.suffix_cons _ _) fun tail => rfl
  | case6 rest => exact .of_some '\t' rest rfl (List.suffix_cons _ _) fun tail => rfl
  | case7 rest =>
      exact (settled_byCode? 4 rest).of_map id (List.suffix_cons _ _) (by simp [unescape?])
        fun tail => by simp [unescape?]
  | case8 rest =>
      exact (settled_byCode? 8 rest).of_map id (List.suffix_cons _ _) (by simp [unescape?])
        fun tail => by simp [unescape?]
  | case9 rest noDigits =>
      refine .of_some 'x' rest (by simp [unescape?, noDigits]) (List.suffix_cons _ _) fun tail => ?_
      have stillNone := takeWhile_take_append_blank (isHexadecimal_of_isBlank isBlank) 2 rest tail
      rw [noDigits] at stillNone
      simp [unescape?, stillNone]
  | case10 rest someDigits =>
      have refused := isHexadecimal_of_isBlank isBlank
      refine settledAt_of_digits refused 2 (fun digits => byteCharacter? (valueOf 16 digits))
        (List.suffix_cons _ _) ?_ fun tail => ?_
      · simp only [unescape?]
      · have stillSome := takeWhile_take_append_blank refused 2 rest tail
        rw [List.cons_append, unescape?]
        simp only [stillSome]
  | case11 character rest _ _ _ _ _ _ _ _ octal =>
      refine settledAt_of_digits (isOctal_of_isBlank isBlank) 2
        (fun digits => byteCharacter? (valueOf 8 (character :: digits)))
        (List.suffix_cons _ _) ?_ fun tail => ?_
      · simp [unescape?, *]
      · simp [unescape?, *]
  | case12 character rest _ _ _ _ _ _ _ _ plain =>
      exact .of_some character rest (by simp [unescape?, *]) (List.suffix_cons _ _)
        fun tail => by simp [unescape?, *]

theorem settled_untilEscapedQuote (isBlank : Text.isBlank blank = true) (fuel : Nat)
    (characters : List Char) : SettledAt blank (untilEscapedQuote fuel) characters := by
  have apart := Text.ne_of_isBlank isBlank (by decide : Text.isBlank '\x27' = false)
  induction fuel, characters using untilEscapedQuote.induct with
  | case1 characters => exact .of_none rfl
  | case2 fuel => exact .of_none rfl
  | case3 fuel rest induction =>
      exact induction.of_map ('\x27' :: ·) ⟨['\x27', '\x27'], rfl⟩ rfl fun tail => rfl
  | case4 fuel rest single =>
      refine .of_some [] rest (by rw [untilEscapedQuote]; exact single) (List.suffix_cons _ _)
        fun tail => ?_
      rw [List.cons_append, untilEscapedQuote]
      exact starts_append apart single tail
  | case5 fuel rest induction =>
      refine (settled_unescape? isBlank rest).of_bind
        (fun character left =>
          if character = '\x00' then none
          else (untilEscapedQuote fuel left).map fun read => (character :: read.1, read.2))
        (fun character left => ?_) (List.suffix_cons _ _) (by rw [untilEscapedQuote]) fun tail => by
          rw [List.cons_append, untilEscapedQuote]
      by_cases null : character = '\x00'
      · exact .of_none (by rw [if_pos null])
      · simp only [if_neg null]
        exact (induction left).of_map (character :: ·) (List.suffix_refl _) rfl fun tail => rfl
  | case6 fuel character rest single noQuote noBackslash induction =>
      refine induction.of_map (character :: ·) (List.suffix_cons _ _) ?_ fun tail => ?_
      · rw [untilEscapedQuote]
        all_goals assumption
      · rw [List.cons_append, untilEscapedQuote]
        · exact fun left quote => absurd quote noQuote
        all_goals assumption

theorem untilEscapedQuote_of_le {fuel more : Nat} {characters : List Char}
    {read : List Char × List Char} (enough : fuel ≤ more)
    (found : untilEscapedQuote fuel characters = some read) :
    untilEscapedQuote more characters = some read := by
  -- An escape leaves a remainder of any length, so the fuel carries the induction.
  induction fuel, characters using untilEscapedQuote.induct generalizing more read with
  | case1 characters => simp [untilEscapedQuote] at found
  | case2 fuel => simp [untilEscapedQuote] at found
  | case3 fuel rest induction =>
      obtain ⟨more, rfl⟩ := Nat.exists_eq_succ_of_ne_zero (Nat.ne_zero_of_lt enough)
      obtain ⟨inner, innerFound, rfl⟩ := Option.map_eq_some_iff.mp found
      rw [untilEscapedQuote, induction (Nat.le_of_succ_le_succ enough) innerFound]
      rfl
  | case4 fuel rest single =>
      obtain ⟨more, rfl⟩ := Nat.exists_eq_succ_of_ne_zero (Nat.ne_zero_of_lt enough)
      rw [untilEscapedQuote] at found ⊢
      · exact found
      all_goals exact single
  | case5 fuel rest induction =>
      obtain ⟨more, rfl⟩ := Nat.exists_eq_succ_of_ne_zero (Nat.ne_zero_of_lt enough)
      rw [untilEscapedQuote] at found ⊢
      obtain ⟨⟨character, left⟩, unescaped, rest⟩ := Option.bind_eq_some_iff.mp found
      rw [unescaped, Option.bind_some]
      by_cases null : character = '\x00'
      · simp [null] at rest
      · simp only [if_neg null] at rest ⊢
        obtain ⟨inner, innerFound, rfl⟩ := Option.map_eq_some_iff.mp rest
        rw [induction left (Nat.le_of_succ_le_succ enough) innerFound]
        rfl
  | case6 fuel character rest single noQuote noBackslash induction =>
      obtain ⟨more, rfl⟩ := Nat.exists_eq_succ_of_ne_zero (Nat.ne_zero_of_lt enough)
      rw [untilEscapedQuote] at found ⊢
      · obtain ⟨inner, innerFound, rfl⟩ := Option.map_eq_some_iff.mp found
        rw [induction (Nat.le_of_succ_le_succ enough) innerFound]
        rfl
      all_goals assumption

theorem settled_untilUnicodeQuote (isBlank : Text.isBlank blank = true) (fuel : Nat)
    (characters : List Char) : SettledAt blank (untilUnicodeQuote fuel) characters := by
  have notQuote := Text.ne_of_isBlank isBlank (by decide : Text.isBlank '\x27' = false)
  have notBackslash := Text.ne_of_isBlank isBlank (by decide : Text.isBlank '\x5c' = false)
  have notPlus := Text.ne_of_isBlank isBlank (by decide : Text.isBlank '+' = false)
  induction fuel, characters using untilUnicodeQuote.induct with
  | case1 characters => exact .of_none rfl
  | case2 fuel => exact .of_none rfl
  | case3 fuel rest induction =>
      exact induction.of_map ('\x27' :: ·) ⟨['\x27', '\x27'], rfl⟩ rfl fun tail => rfl
  | case4 fuel rest single =>
      refine .of_some [] rest (by rw [untilUnicodeQuote]; exact single) (List.suffix_cons _ _)
        fun tail => ?_
      rw [List.cons_append, untilUnicodeQuote]
      exact starts_append notQuote single tail
  | case5 fuel rest induction =>
      exact induction.of_map ('\x5c' :: ·) ⟨['\x5c', '\x5c'], rfl⟩ rfl fun tail => rfl
  | case6 fuel rest induction =>
      exact (settled_byCode? 6 rest).of_bind
        (fun character left =>
          (untilUnicodeQuote fuel left).map fun read => (character :: read.1, read.2))
        (fun character left =>
          (induction left).of_map (character :: ·) (List.suffix_refl _) rfl fun tail => rfl)
        ⟨['\x5c', '+'], rfl⟩ rfl fun tail => rfl
  | case7 fuel rest noBackslash noPlus induction =>
      refine (settled_byCode? 4 rest).of_bind
        (fun character left =>
          (untilUnicodeQuote fuel left).map fun read => (character :: read.1, read.2))
        (fun character left =>
          (induction left).of_map (character :: ·) (List.suffix_refl _) rfl fun tail => rfl)
        (List.suffix_cons _ _) ?_ fun tail => ?_
      · rw [untilUnicodeQuote]
        · exact noBackslash
        · exact noPlus
      · rw [List.cons_append, untilUnicodeQuote]
        · exact starts_append notBackslash noBackslash tail
        · exact starts_append notPlus noPlus tail
  | case8 fuel character rest single noQuote double noPlus noBackslash induction =>
      refine induction.of_map (character :: ·) (List.suffix_cons _ _) ?_ fun tail => ?_
      · rw [untilUnicodeQuote]
        all_goals assumption
      · rw [List.cons_append, untilUnicodeQuote]
        · exact fun left quote => absurd quote noQuote
        · exact noQuote
        · exact fun left backslash => absurd backslash noBackslash
        · exact fun left backslash => absurd backslash noBackslash
        · exact noBackslash

theorem untilUnicodeQuote_of_le {fuel more : Nat} {characters : List Char}
    {read : List Char × List Char} (enough : fuel ≤ more)
    (found : untilUnicodeQuote fuel characters = some read) :
    untilUnicodeQuote more characters = some read := by
  induction fuel, characters using untilUnicodeQuote.induct generalizing more read with
  | case1 characters => simp [untilUnicodeQuote] at found
  | case2 fuel => simp [untilUnicodeQuote] at found
  | case4 fuel rest single =>
      obtain ⟨more, rfl⟩ := Nat.exists_eq_succ_of_ne_zero (Nat.ne_zero_of_lt enough)
      rw [untilUnicodeQuote] at found ⊢
      · exact found
      all_goals exact single
  | case6 fuel rest induction | case7 fuel rest _ _ induction =>
      obtain ⟨more, rfl⟩ := Nat.exists_eq_succ_of_ne_zero (Nat.ne_zero_of_lt enough)
      rw [untilUnicodeQuote] at found ⊢
      · obtain ⟨⟨character, left⟩, coded, rest⟩ := Option.bind_eq_some_iff.mp found
        obtain ⟨inner, innerFound, rfl⟩ := Option.map_eq_some_iff.mp rest
        rw [coded, Option.bind_some]
        simp only [induction left (Nat.le_of_succ_le_succ enough) innerFound, Option.map_some]
      all_goals assumption
  | case3 fuel rest induction | case5 fuel rest induction
    | case8 fuel character rest _ _ _ _ _ induction =>
      obtain ⟨more, rfl⟩ := Nat.exists_eq_succ_of_ne_zero (Nat.ne_zero_of_lt enough)
      rw [untilUnicodeQuote] at found ⊢
      · obtain ⟨inner, innerFound, rfl⟩ := Option.map_eq_some_iff.mp found
        rw [induction (Nat.le_of_succ_le_succ enough) innerFound]
        rfl
      all_goals assumption

end Sql

end OrmCode
