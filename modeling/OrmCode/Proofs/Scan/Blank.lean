import OrmCode.Proofs.Scan.Escape

/-!
# Words, strings and numbers before a blank

A blank that no name of the dialect goes on with settles words.  Strings and numbers are settled
by every blank that is not their quote.
-/

namespace OrmCode

namespace Sql

variable {Value : Type} {dialect : Dialect} {blank : Char}

namespace Dialect

/-- Whether a character is blank and no part of a name of a dialect. -/
def separates (dialect : Dialect) (character : Char) : Bool :=
  Text.isBlank character && !dialect.startsName character

theorem separates_iff {character : Char} :
    dialect.separates character = true ↔
      Text.isBlank character = true ∧ dialect.startsName character = false := by
  simp [separates]

theorem continuesName_of_separates (separates : dialect.separates blank = true) :
    dialect.continuesName blank = false := by
  obtain ⟨isBlank, startsNone⟩ := separates_iff.mp separates
  have either : (dialect.startsName blank || !dialect.continuesName blank) = true := by
    cases dialect <;> exact Text.of_isBlank (fun character =>
      startsName _ character || !continuesName _ character) isBlank (by decide +kernel)
  simpa [startsNone] using either

end Dialect

theorem settled_scanWord (refused : dialect.continuesName blank = false)
    (begun characters : List Char) :
    SettledAt blank (fun rest => some (scanWord dialect begun rest)) characters := by
  refine .of_some _ _ rfl (List.dropWhile_suffix _) fun tail => ?_
  rw [scanWord, takeWhile_append_blank _ refused, dropWhile_append_blank _ refused]

theorem settled_scanString {quote : Char} (apart : blank ≠ quote) (form : StringForm)
    (backslash : Bool) (characters : List Char) :
    SettledAt blank (scanString form quote backslash) characters :=
  (settled_untilQuote apart backslash characters).of_map
    (fun text => some (.string form (String.ofList text))) (List.suffix_refl _) rfl fun _ => rfl

theorem settled_scanStringOrTriple {quote : Char} (apart : blank ≠ quote)
    (form triple : StringForm) (backslash : Bool) (characters : List Char) :
    SettledAt blank (scanStringOrTriple dialect form triple quote backslash) characters := by
  have single := settled_scanString apart form backslash characters
  cases quotes : dialect.tripleQuotes with
  | false =>
      intro value after found
      simp only [scanStringOrTriple, quotes] at found ⊢
      exact single found
  | true =>
      match characters with
      | [] =>
          intro value after found
          simp only [scanStringOrTriple, quotes] at found
          cases found
      | [only] =>
          -- A blank behind a single quote is not the third of three quotes.
          intro value after found
          simp only [scanStringOrTriple, quotes, List.cons_append, List.nil_append,
            if_neg fun both : only = quote ∧ blank = quote => apart both.2] at found ⊢
          exact single found
      | second :: third :: body =>
          by_cases opened : second = quote ∧ third = quote
          · exact (settled_untilThreeQuotes apart backslash body).of_map
              (fun text => some (.string triple (String.ofList text)))
              ⟨[second, third], rfl⟩
              (by simp only [scanStringOrTriple, quotes, if_pos opened])
              fun tail => by
                simp only [scanStringOrTriple, quotes, List.cons_append, if_pos opened]
          · intro value after found
            simp only [scanStringOrTriple, quotes, List.cons_append, if_neg opened] at found ⊢
            exact single found

/-- A character of some kind, if it comes next. -/
theorem filter_take_append (accepts : Char → Bool) (refused : accepts blank = false)
    (characters tail : List Char) :
    ((characters ++ blank :: tail).take 1).filter accepts = (characters.take 1).filter accepts := by
  cases characters with
  | nil => simp [refused]
  | cons first rest => rfl

theorem length_filter_take_le (accepts : Char → Bool) (characters : List Char) :
    ((characters.take 1).filter accepts).length ≤ characters.length :=
  Nat.le_trans (List.length_filter_le _ _) (List.length_take_le' _ _)

theorem exponent_append (isBlank : Text.isBlank blank = true) (characters tail : List Char) :
    exponent (characters ++ blank :: tail) = exponent characters := by
  have notE := Text.ne_of_isBlank isBlank (by decide : Text.isBlank 'e' = false)
  have notCapital := Text.ne_of_isBlank isBlank (by decide : Text.isBlank 'E' = false)
  have noSign : (blank == '+' || blank == '-') = false := by
    simp [Text.ne_of_isBlank isBlank (by decide : Text.isBlank '+' = false),
      Text.ne_of_isBlank isBlank (by decide : Text.isBlank '-' = false)]
  cases characters with
  | nil => simp [exponent, notE, notCapital]
  | cons letter rest =>
      have short := length_filter_take_le (fun sign => sign == '+' || sign == '-') rest
      have sign : ((rest ++ blank :: tail).take 1).filter (fun sign => sign == '+' || sign == '-') =
          (rest.take 1).filter (fun sign => sign == '+' || sign == '-') :=
        filter_take_append _ noSign rest tail
      rw [List.cons_append, exponent, exponent]
      simp only [sign, List.drop_append_of_le_length short,
        takeWhile_append_blank _ (Text.isDigit_of_isBlank isBlank)]

theorem length_exponent_le (characters : List Char) :
    (exponent characters).length ≤ characters.length := by
  cases characters with
  | nil => exact Nat.le_refl 0
  | cons letter rest =>
      have short := length_filter_take_le (fun sign => sign == '+' || sign == '-') rest
      rw [exponent]
      dsimp only
      split
      · split
        · exact Nat.zero_le _
        · next digits _ =>
            have few : (List.takeWhile Char.isDigit (rest.drop ((rest.take 1).filter
                fun sign => sign == '+' || sign == '-').length)).length ≤ _ :=
              (List.takeWhile_prefix _).length_le
            rw [List.length_drop] at few
            simp only [List.length_cons, List.length_append]
            omega
      · exact Nat.zero_le _

theorem head?_append_blank {other : Char} (apart : blank ≠ other) (characters tail : List Char) :
    (characters ++ blank :: tail).head? = some other ↔ characters.head? = some other := by
  cases characters with
  | nil => simp [apart]
  | cons first rest => rfl

theorem scanNumber_append (isBlank : Text.isBlank blank = true)
    (refused : dialect.continuesName blank = false) (characters tail : List Char) :
    scanNumber dialect (characters ++ blank :: tail) =
      ((scanNumber dialect characters).1, (scanNumber dialect characters).2 ++ blank :: tail) := by
  have noDigit := Text.isDigit_of_isBlank isBlank
  have notX := Text.ne_of_isBlank isBlank (by decide : Text.isBlank 'x' = false)
  have notL := Text.ne_of_isBlank isBlank (by decide : Text.isBlank 'L' = false)
  have noPoint : (blank == '.') = false :=
    beq_false_of_ne (Text.ne_of_isBlank isBlank (by decide))
  unfold scanNumber
  simp only [takeWhile_append_blank _ noDigit, dropWhile_append_blank _ noDigit,
    head?_append_blank notX]
  generalize characters.takeWhile Char.isDigit = whole
  generalize characters.dropWhile Char.isDigit = afterWhole
  -- Each of the runs that a number is made of stops before the blank.
  split
  · next hexadecimal =>
      obtain ⟨rest, rfl⟩ := List.head?_eq_some_iff.mp hexadecimal.2
      simp [takeWhile_append_blank _ (isHexadecimal_of_isBlank isBlank),
        dropWhile_append_blank _ (isHexadecimal_of_isBlank isBlank)]
  · have dot : point (afterWhole ++ blank :: tail) = point afterWhole :=
      filter_take_append (· == '.') noPoint afterWhole tail
    have short : (point afterWhole).length ≤ afterWhole.length :=
      length_filter_take_le _ afterWhole
    simp only [dot, List.drop_append_of_le_length short, takeWhile_append_blank _ noDigit,
      dropWhile_append_blank _ noDigit, exponent_append isBlank,
      List.drop_append_of_le_length (length_exponent_le _), takeWhile_append_blank _ refused,
      dropWhile_append_blank _ refused, head?_append_blank notL]
    split
    · rfl
    · split
      · rfl
      · split
        · next long =>
            obtain ⟨rest, written⟩ := List.head?_eq_some_iff.mp long
            rw [written]
            rfl
        · rfl

/-- A digit or a period is taken off at least. -/
theorem suffix_of_scanNumber {first : Char} {rest : List Char}
    (begins : first.isDigit = true ∨ first = '.') :
    (scanNumber dialect (first :: rest)).2 <:+ rest := by
  have afterPoint : ((first :: rest).dropWhile Char.isDigit).drop
      (point ((first :: rest).dropWhile Char.isDigit)).length <:+ rest := by
    rcases begins with digit | rfl
    · rw [List.dropWhile_cons_of_pos digit]
      exact (List.drop_suffix _ _).trans (List.dropWhile_suffix _)
    · exact List.suffix_refl rest
  unfold scanNumber
  simp only
  split
  · next hexadecimal =>
      have digit : first.isDigit = true := by
        rcases begins with digit | rfl
        · exact digit
        · simp at hexadecimal
      rw [List.dropWhile_cons_of_pos digit]
      exact (List.dropWhile_suffix _).trans
        ((List.drop_suffix _ _).trans (List.dropWhile_suffix _))
  · have afterMantissa := (List.dropWhile_suffix Char.isDigit).trans afterPoint
    have afterPower := fun count => (List.drop_suffix count _).trans afterMantissa
    split
    · exact afterMantissa
    · split
      · exact (List.dropWhile_suffix _).trans (afterPower _)
      · split
        · exact (List.drop_suffix _ _).trans (afterPower _)
        · exact afterPower _

theorem settled_scanNumber (isBlank : Text.isBlank blank = true)
    (refused : dialect.continuesName blank = false) {first : Char} {rest : List Char}
    (begins : first.isDigit = true ∨ first = '.') :
    SettledAt blank (fun rest => some (scanNumber dialect (first :: rest))) rest :=
  .of_some _ _ rfl (suffix_of_scanNumber begins)
    fun tail => congrArg some (scanNumber_append isBlank refused (first :: rest) tail)

theorem settled_escapedString (isBlank : Text.isBlank blank = true) (characters : List Char) :
    SettledAt blank (fun body => (untilEscapedQuote (body.length + 1) body).map
      fun (text, after) => (some (Token.string .escaped (String.ofList text)), after))
      characters := by
  intro value after found
  obtain ⟨⟨text, left⟩, read, same⟩ := Option.map_eq_some_iff.mp found
  obtain ⟨rfl, rfl⟩ := Prod.mk.inj same
  obtain ⟨isEnd, again⟩ := settled_untilEscapedQuote isBlank _ characters read
  refine ⟨isEnd, fun tail => ?_⟩
  have longer : characters.length + 1 ≤ (characters ++ blank :: tail).length + 1 := by simp
  simp only [untilEscapedQuote_of_le longer (again tail), Option.map_some]

theorem settled_unicodeString (isBlank : Text.isBlank blank = true) (characters : List Char) :
    SettledAt blank (fun body => (untilUnicodeQuote (body.length + 1) body).map
      fun (text, after) => (some (Token.string .unicode (String.ofList text)), after))
      characters := by
  intro value after found
  obtain ⟨⟨text, left⟩, read, same⟩ := Option.map_eq_some_iff.mp found
  obtain ⟨rfl, rfl⟩ := Prod.mk.inj same
  obtain ⟨isEnd, again⟩ := settled_untilUnicodeQuote isBlank _ characters read
  refine ⟨isEnd, fun tail => ?_⟩
  have longer : characters.length + 1 ≤ (characters ++ blank :: tail).length + 1 := by simp
  simp only [untilUnicodeQuote_of_le longer (again tail), Option.map_some]

end Sql

end OrmCode
