import Mathlib.Data.List.Infix
import Mathlib.Data.List.TakeWhile
import OrmCode.Proofs.Text.Blank
import OrmCode.Sql.Scan

/-!
# What a blank after a token does to it

A scanner looks at most a few characters ahead.  Most of them are settled by a
blank: a token that ends at the end of a text is the same token before a blank,
whatever follows it there.
-/

namespace OrmCode

namespace Text

theorem afterStart?_append {lead : List Char} {blank : Char} (characters tail : List Char)
    (apart : blank ∉ lead) :
    afterStart? lead (characters ++ blank :: tail) =
      (afterStart? lead characters).map (· ++ blank :: tail) := by
  induction lead generalizing characters with
  | nil => rfl
  | cons wanted lead induction =>
      obtain ⟨different, apart⟩ := List.ne_and_not_mem_of_not_mem_cons apart
      cases characters with
      | nil => simp [afterStart?, different.symm]
      | cons character rest =>
          rw [List.cons_append, afterStart?, afterStart?]
          split
          · exact induction rest apart
          · rfl

theorem suffix_of_afterStart? {lead characters rest : List Char}
    (found : afterStart? lead characters = some rest) : rest <:+ characters := by
  fun_induction afterStart? lead characters with
  | case1 characters => exact Option.some.inj found ▸ List.suffix_refl _
  | case2 wanted lead => simp at found
  | case3 lead character rest induction => exact (induction found).trans (List.suffix_cons _ _)
  | case4 wanted lead character rest different => simp at found

end Text

namespace Sql

variable {Value Result : Type} {blank : Char}

/-- What a scanner reads off some characters is settled by a blank: it leaves an
end of them, and it leaves a blank with what follows it alone. -/
def SettledAt (blank : Char) (scan : List Char → Option (Value × List Char))
    (characters : List Char) : Prop :=
  ∀ ⦃value : Value⦄ ⦃after : List Char⦄, scan characters = some (value, after) →
    after <:+ characters ∧
      ∀ tail, scan (characters ++ blank :: tail) = some (value, after ++ blank :: tail)

namespace SettledAt

variable {scan : List Char → Option (Value × List Char)} {characters : List Char}

theorem of_none (nothing : scan characters = none) : SettledAt blank scan characters := by
  intro value after found
  rw [nothing] at found
  cases found

theorem of_some (value : Value) (after : List Char) (here : scan characters = some (value, after))
    (isEnd : after <:+ characters)
    (there : ∀ tail, scan (characters ++ blank :: tail) = some (value, after ++ blank :: tail)) :
    SettledAt blank scan characters := by
  intro other left found
  rw [here] at found
  obtain ⟨rfl, rfl⟩ := Prod.mk.inj (Option.some.inj found)
  exact ⟨isEnd, there⟩

/-- A scanner that does what another one does with an end of the characters is settled with it. -/
theorem of_rest {other : List Char → Option (Value × List Char)} {rest : List Char}
    (settled : SettledAt blank scan rest) (isEnd : rest <:+ characters)
    (here : other characters = scan rest)
    (there : ∀ tail, other (characters ++ blank :: tail) = scan (rest ++ blank :: tail)) :
    SettledAt blank other characters := by
  intro value after found
  rw [here] at found
  obtain ⟨afterIsEnd, again⟩ := settled found
  exact ⟨afterIsEnd.trans isEnd, fun tail => (there tail).trans (again tail)⟩

/-- A scanner that goes on with an end of the characters is settled with it. -/
theorem of_map {other : List Char → Option (Result × List Char)} {rest : List Char}
    (settled : SettledAt blank scan rest) (function : Value → Result) (isEnd : rest <:+ characters)
    (here : other characters = (scan rest).map fun (value, after) => (function value, after))
    (there : ∀ tail, other (characters ++ blank :: tail) =
      (scan (rest ++ blank :: tail)).map fun (value, after) => (function value, after)) :
    SettledAt blank other characters := by
  intro value after found
  rw [here] at found
  obtain ⟨⟨inner, left⟩, read, same⟩ := Option.map_eq_some_iff.mp found
  obtain ⟨rfl, rfl⟩ := Prod.mk.inj same
  obtain ⟨leftIsEnd, again⟩ := settled read
  refine ⟨leftIsEnd.trans isEnd, fun tail => ?_⟩
  simp only [there tail, again tail, Option.map_some]

/-- What follows a settled scanner and is settled itself is settled after it. -/
theorem of_bind {other : List Char → Option (Result × List Char)} {rest : List Char}
    (settled : SettledAt blank scan rest) (next : Value → List Char → Option (Result × List Char))
    (nextSettled : ∀ value left, SettledAt blank (next value) left) (isEnd : rest <:+ characters)
    (here : other characters = (scan rest).bind fun (value, left) => next value left)
    (there : ∀ tail, other (characters ++ blank :: tail) =
      (scan (rest ++ blank :: tail)).bind fun (value, left) => next value left) :
    SettledAt blank other characters := by
  intro value after found
  rw [here] at found
  obtain ⟨⟨inner, left⟩, read, nextRead⟩ := Option.bind_eq_some_iff.mp found
  obtain ⟨leftIsEnd, again⟩ := settled read
  obtain ⟨afterIsEnd, nextAgain⟩ := nextSettled inner left nextRead
  refine ⟨(afterIsEnd.trans leftIsEnd).trans isEnd, fun tail => ?_⟩
  simp only [there tail, again tail, Option.bind_some, nextAgain tail]

end SettledAt

theorem takeWhile_append_blank (accepts : Char → Bool) (refused : accepts blank = false)
    (characters tail : List Char) :
    (characters ++ blank :: tail).takeWhile accepts = characters.takeWhile accepts := by
  rw [List.takeWhile_append]
  split
  · next whole =>
      rw [List.takeWhile_cons_of_neg (by simp [refused]), List.append_nil]
      exact ((List.takeWhile_prefix accepts).eq_of_length whole).symm
  · rfl

theorem dropWhile_append_blank (accepts : Char → Bool) (refused : accepts blank = false)
    (characters tail : List Char) :
    (characters ++ blank :: tail).dropWhile accepts =
      characters.dropWhile accepts ++ blank :: tail := by
  rw [List.dropWhile_append]
  split
  · next none =>
      rw [List.dropWhile_cons_of_neg (by simp [refused]), List.isEmpty_iff.mp none,
        List.nil_append]
  · rfl

/-- What does not start with a character does not start with it before a blank. -/
theorem starts_append {other : Char} {rest : List Char} (apart : blank ≠ other)
    (different : ∀ left, rest = other :: left → False) (tail left : List Char) :
    rest ++ blank :: tail = other :: left → False := by
  intro same
  cases rest with
  | nil => exact apart (List.cons.inj same).1
  | cons next others => exact different others (by rw [(List.cons.inj same).1])

theorem settled_untilQuote {quote : Char} (apart : blank ≠ quote) (backslash : Bool)
    (characters : List Char) : SettledAt blank (untilQuote quote backslash) characters := by
  induction characters using untilQuote.induct quote backslash with
  | case1 => exact .of_none rfl
  | case2 =>
      exact .of_some [] [] (by rw [untilQuote, if_pos rfl]) List.nil_suffix
        fun tail => by simp [untilQuote, apart]
  | case3 character different => exact .of_none (by rw [untilQuote, if_neg different])
  | case4 rest induction =>
      exact induction.of_map (quote :: ·) ⟨[quote, quote], rfl⟩ (by simp [untilQuote])
        fun tail => by simp [untilQuote]
  | case5 next rest different =>
      exact .of_some [] (next :: rest) (by simp [untilQuote, different]) (List.suffix_cons _ _)
        fun tail => by simp [untilQuote, different]
  | case6 character next rest different escapes induction =>
      exact induction.of_map (escapeValue next :: ·) ⟨[character, next], rfl⟩
        (by rw [untilQuote, if_neg different, if_pos escapes])
        fun tail => by
          rw [List.cons_append, List.cons_append, untilQuote, if_neg different, if_pos escapes]
  | case7 character next rest different plain induction =>
      exact induction.of_map (character :: ·) (List.suffix_cons _ _)
        (by rw [untilQuote, if_neg different, if_neg plain])
        fun tail => by
          rw [List.cons_append, List.cons_append, untilQuote, if_neg different, if_neg plain]

theorem settled_untilThreeQuotes {quote : Char} (apart : blank ≠ quote) (backslash : Bool)
    (characters : List Char) : SettledAt blank (untilThreeQuotes quote backslash) characters := by
  induction characters using untilThreeQuotes.induct quote backslash with
  | case1 => exact .of_none rfl
  | case2 character => exact .of_none rfl
  | case3 character next rest escapes induction =>
      exact induction.of_map (escapeValue next :: ·) ⟨[character, next], rfl⟩
        (by rw [untilThreeQuotes, if_pos escapes])
        fun tail => by rw [List.cons_append, List.cons_append, untilThreeQuotes, if_pos escapes]
  | case4 character next rest plain closes =>
      obtain ⟨third, left, rfl⟩ : ∃ third left, rest = third :: left := by
        cases rest with
        | nil => simp at closes
        | cons third left => exact ⟨third, left, rfl⟩
      exact .of_some [] left (by rw [untilThreeQuotes, if_neg plain, if_pos closes]; rfl)
        ⟨[character, next, third], rfl⟩
        fun tail => by
          rw [List.cons_append, List.cons_append, untilThreeQuotes, if_neg plain,
            if_pos (by simpa using closes)]
          rfl
  | case5 character next rest plain opened induction =>
      refine induction.of_map (character :: ·) (List.suffix_cons _ _)
        (by rw [untilThreeQuotes, if_neg plain, if_neg opened]) fun tail => ?_
      have stillOpen : ¬(character = quote ∧ next = quote ∧
          (rest ++ blank :: tail).head? = some quote) := by
        cases rest with
        | nil => simp [apart]
        | cons third left => simpa using opened
      rw [List.cons_append, List.cons_append, untilThreeQuotes, if_neg plain, if_neg stillOpen]

/-- A quoted name is read like a string in which no backslash escapes. -/
theorem untilNameEnd_eq (closing : Char) (characters : List Char) :
    untilNameEnd closing characters = untilQuote closing false characters := by
  fun_induction untilNameEnd closing characters with
  | case1 => rfl
  | case2 => rw [untilQuote, if_pos rfl]
  | case3 character different => rw [untilQuote, if_neg different]
  | case4 rest induction => rw [untilQuote, if_pos rfl, if_pos rfl, induction]
  | case5 next rest different => rw [untilQuote, if_pos rfl, if_neg different]
  | case6 character next rest different induction =>
      rw [untilQuote, if_neg different, if_neg (by simp), induction]

theorem settled_untilNameEnd {closing : Char} (apart : blank ≠ closing)
    (characters : List Char) : SettledAt blank (untilNameEnd closing) characters := by
  rw [funext (untilNameEnd_eq closing)]
  exact settled_untilQuote apart false characters

theorem settled_untilDollars (characters : List Char) :
    SettledAt blank untilDollars characters := by
  induction characters using untilDollars.induct with
  | case1 => exact .of_none rfl
  | case2 character => exact .of_none rfl
  | case3 rest =>
      exact .of_some [] rest rfl ⟨['$', '$'], rfl⟩ fun tail => rfl
  | case4 character next rest other induction =>
      exact induction.of_map (character :: ·) (List.suffix_cons _ _)
        (by rw [untilDollars]; exact other)
        fun tail => by rw [List.cons_append, List.cons_append, untilDollars]; exact other

theorem settled_splitOnce? {separator : List Char} (apart : blank ∉ separator)
    (characters : List Char) : SettledAt blank (Text.splitOnce? separator) characters := by
  induction characters with
  | nil =>
      cases separator with
      | nil =>
          exact .of_some [] [] rfl List.nil_suffix
            fun tail => by simp [Text.splitOnce?, Text.afterStart?]
      | cons first others => exact .of_none rfl
  | cons character rest induction =>
      have later : ∀ tail, Text.afterStart? separator (character :: (rest ++ blank :: tail)) =
          (Text.afterStart? separator (character :: rest)).map (· ++ blank :: tail) :=
        fun tail => Text.afterStart?_append (character :: rest) tail apart
      cases found : Text.afterStart? separator (character :: rest) with
      | some remainder =>
          exact .of_some [] remainder (by rw [Text.splitOnce?, found])
            (Text.suffix_of_afterStart? found)
            fun tail => by rw [List.cons_append, Text.splitOnce?, later, found]; rfl
      | none =>
          exact induction.of_map (character :: ·) (List.suffix_cons _ _)
            (by rw [Text.splitOnce?, found])
            fun tail => by rw [List.cons_append, Text.splitOnce?, later, found]; rfl

end Sql

end OrmCode
