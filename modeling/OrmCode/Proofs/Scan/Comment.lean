import OrmCode.Proofs.Scan.Tokens

/-!
# Comments and the lines after them

A comment with an end of its own goes on behind a line break, or has ended before it whatever
follows.  One that ends with its line goes on to the next line feed.
-/

namespace OrmCode

namespace Sql

variable {dialect : Dialect}

theorem afterComment_cons (depth : Nat) (previous character : Char) (rest : List Char) :
    afterComment depth previous (character :: rest) =
      if previous = '/' ∧ character = '*' then afterComment (depth + 1) character rest
      else if previous = '*' ∧ character = '/' then
        match depth with
        | 0 => some rest
        | outer + 1 => afterComment outer character rest
      else afterComment depth character rest := by
  cases depth <;> rw [afterComment.eq_def]

/-- What precedes a blank of a comment does not matter. -/
theorem afterComment_of_isBlank {blank : Char} (isBlank : Text.isBlank blank = true)
    (depth : Nat) (previous : Char) (rest : List Char) :
    afterComment depth previous (blank :: rest) = afterComment depth blank rest := by
  have notSlash := Text.ne_of_isBlank isBlank (by decide : Text.isBlank '/' = false)
  have notStar := Text.ne_of_isBlank isBlank (by decide : Text.isBlank '*' = false)
  simp [afterComment_cons, notSlash, notStar]

theorem afterComment_append_of_isBlank {gap : List Char}
    (blanks : ∀ blank ∈ gap, Text.isBlank blank = true) (depth : Nat) (rest : List Char) :
    afterComment depth ' ' (gap ++ rest) = afterComment depth ' ' rest := by
  induction gap with
  | nil => rfl
  | cons blank gap induction =>
      obtain ⟨here, later⟩ := List.forall_mem_cons.mp blanks
      rw [List.cons_append, afterComment_of_isBlank here, ← induction later]
      cases characters : gap ++ rest with
      | nil => rfl
      | cons first others =>
          have notSlash := Text.ne_of_isBlank here (by decide : Text.isBlank '/' = false)
          have notStar := Text.ne_of_isBlank here (by decide : Text.isBlank '*' = false)
          simp [afterComment_cons, notSlash, notStar]

/-- How many comments are around the innermost one at the end of a line that goes
on with a comment, or else the rest of the line after the comment. -/
def crossComment : Nat → Char → List Char → Nat ⊕ List Char
  | depth, _, [] => .inl depth
  | depth, previous, character :: rest =>
    if previous = '/' ∧ character = '*' then crossComment (depth + 1) character rest
    else if previous = '*' ∧ character = '/' then
      match depth with
      | 0 => .inr rest
      | outer + 1 => crossComment outer character rest
    else crossComment depth character rest

/-- A comment that ends on a line ends there whatever follows the line. -/
theorem afterComment_of_crossed {depth : Nat} {previous : Char} {characters after : List Char}
    (crossed : crossComment depth previous characters = .inr after) (tail : List Char) :
    afterComment depth previous (characters ++ tail) = some (after ++ tail) := by
  fun_induction crossComment depth previous characters with
  | case1 => cases crossed
  | case2 depth previous character rest opens induction =>
      rw [List.cons_append, afterComment_cons, if_pos opens]
      exact induction crossed
  | case3 previous character rest notOpens closes =>
      obtain rfl := Sum.inr.inj crossed
      rw [List.cons_append, afterComment_cons, if_neg notOpens, if_pos closes]
  | case4 previous character rest notOpens closes outer induction =>
      rw [List.cons_append, afterComment_cons, if_neg notOpens, if_pos closes]
      exact induction crossed
  | case5 depth previous character rest notOpens notCloses induction =>
      rw [List.cons_append, afterComment_cons, if_neg notOpens, if_neg notCloses]
      exact induction crossed

/-- A comment that goes on at the end of a line goes on with the blanks behind it. -/
theorem afterComment_of_inside {depth inner : Nat} {previous : Char} {characters : List Char}
    (crossed : crossComment depth previous characters = .inl inner)
    {gap : List Char} (blanks : ∀ blank ∈ gap, Text.isBlank blank = true) (tail : List Char)
    (bounded : gap = [] → tail = []) :
    afterComment depth previous (characters ++ (gap ++ tail)) =
      afterComment inner ' ' (gap ++ tail) := by
  fun_induction crossComment depth previous characters with
  | case1 depth previous =>
      obtain rfl := Sum.inl.inj crossed
      cases gap with
      | nil =>
          rw [bounded rfl]
          rfl
      | cons blank gap =>
          have here := blanks blank List.mem_cons_self
          rw [List.nil_append, List.cons_append, afterComment_of_isBlank here,
            afterComment_of_isBlank here]
  | case2 depth previous character rest opens induction =>
      rw [List.cons_append, afterComment_cons, if_pos opens]
      exact induction crossed
  | case3 previous character rest notOpens closes => cases crossed
  | case4 previous character rest notOpens closes outer induction =>
      rw [List.cons_append, afterComment_cons, if_neg notOpens, if_pos closes]
      exact induction crossed
  | case5 depth previous character rest notOpens notCloses induction =>
      rw [List.cons_append, afterComment_cons, if_neg notOpens, if_neg notCloses]
      exact induction crossed

/-- Where a comment starts, no other token does. -/
theorem scanStep_of_comment {first : Char} {rest : List Char} {comment : Option Scanned}
    (found : scanComment? dialect first rest = some comment) :
    scanStep dialect first rest = comment := by
  have sign : first = '-' ∨ first = '/' ∨ first = '#' := by
    revert found
    fun_cases scanComment? dialect first rest <;> simp
  have noString : scanAnnounced? dialect first rest = none := by
    rcases sign with rfl | rfl | rfl <;> simp [scanAnnounced?]
  have noLetter : announces dialect first = false := by
    rcases sign with rfl | rfl | rfl <;> simp [announces]
  have noQuote : dialect.opensQuotedName first = false := by
    rcases sign with rfl | rfl | rfl <;> cases dialect <;> decide
  rcases sign with rfl | rfl | rfl <;>
    simp [scanStep, noString, noLetter, quotesName, noQuote, found]

theorem scanStep_question (rest : List Char) :
    scanStep .postgresql '?' rest = some (scanQuestion .postgresql rest) := by
  have noString : scanAnnounced? .postgresql '?' rest = none := by simp [scanAnnounced?]
  have noLetter : announces .postgresql '?' = false := by decide
  have noQuote : Dialect.opensQuotedName .postgresql '?' = false := by decide
  have noComment : scanComment? .postgresql '?' rest = none := by simp [scanComment?]
  simp [scanStep, noString, noLetter, quotesName, noQuote, noComment]

theorem afterLine_append {body : List Char} (more : List Char) (ends : '\n' ∈ body) :
    afterLine (body ++ more) = afterLine body ++ more := by
  induction body with
  | nil => cases ends
  | cons first rest induction =>
      by_cases feed : first = '\n'
      · simp [afterLine, feed]
      · have later : '\n' ∈ rest := (List.mem_cons.mp ends).resolve_left (Ne.symm feed)
        have same := induction later
        simp only [afterLine, List.cons_append] at same ⊢
        rwa [List.dropWhile_cons_of_pos (by simpa using feed),
          List.dropWhile_cons_of_pos (by simpa using feed)]

theorem afterLine_append_of_not_mem {body : List Char} (more : List Char)
    (goesOn : '\n' ∉ body) : afterLine (body ++ more) = afterLine more := by
  have passed : ∀ character ∈ body, (character != '\n') = true := by
    intro character member
    rw [bne_iff_ne]
    rintro rfl
    exact goesOn member
  rw [afterLine, List.dropWhile_append_of_pos passed]
  rfl

/-- A comment without an end of its own goes on to the next line feed. -/
theorem lineComment_append {first : Char} {rest after : List Char} {token? : Option Token}
    (noBlock : ¬(first = '/' ∧ rest.head? = some '*'))
    (found : scanComment? dialect first rest = some (some (token?, after))) :
    token? = none ∧ ∃ body, after = afterLine body ∧ ('\n' ∈ rest ↔ '\n' ∈ body) ∧ ∀ more,
      scanComment? dialect first (rest ++ more) = some (some (none, afterLine (body ++ more))) := by
  revert found
  fun_cases scanComment? dialect first rest with
  | case1 body =>
      intro found
      obtain ⟨rfl, rfl⟩ := Prod.mk.inj (Option.some.inj (Option.some.inj found))
      exact ⟨rfl, body, rfl, by simp, fun more => rfl⟩
  | case2 body => exact absurd ⟨rfl, rfl⟩ noBlock
  | case3 body known =>
      intro found
      obtain ⟨rfl, rfl⟩ := Prod.mk.inj (Option.some.inj (Option.some.inj found))
      exact ⟨rfl, body, rfl, by simp, fun more => by
        simp only [List.cons_append, scanComment?, if_pos known]⟩
  | case5 _ known =>
      intro found
      obtain ⟨rfl, rfl⟩ := Prod.mk.inj (Option.some.inj (Option.some.inj found))
      exact ⟨rfl, _, rfl, Iff.rfl, fun more => by simp only [scanComment?, if_pos known]⟩
  | _ => intro found; cases found

/-- A comment up to the end of its line always has an end. -/
theorem scanComment?_ne_some_none {first : Char} {rest : List Char}
    (noBlock : ¬(first = '/' ∧ rest.head? = some '*')) :
    scanComment? dialect first rest ≠ some none := by
  fun_cases scanComment? dialect first rest with
  | case2 body => exact absurd ⟨rfl, rfl⟩ noBlock
  | _ => simp

end Sql

end OrmCode
