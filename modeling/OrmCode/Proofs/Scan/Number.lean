import OrmCode.Proofs.Scan.Constant

/-!
# Numbers as SQL

A number is taken apart into the parts that it is read off by.  The parts on their own are read
as the number, and a number has no others.
-/

namespace OrmCode

namespace Sql

variable {dialect : Dialect}

/-- Characters that pass a test are taken up to one that does not, or to the end. -/
theorem takeWhile_append_of_head? {accepts : Char → Bool} {characters rest : List Char}
    (all : ∀ character ∈ characters, accepts character = true)
    (stops : ∀ next ∈ rest.head?, accepts next = false) :
    (characters ++ rest).takeWhile accepts = characters ∧
      (characters ++ rest).dropWhile accepts = rest := by
  cases rest with
  | nil =>
      rw [List.append_nil]
      exact ⟨List.takeWhile_eq_self_iff.mpr all, List.dropWhile_eq_nil_iff.mpr all⟩
  | cons next rest => exact takeWhile_append_of_stop all (stops next rfl) rest

theorem exponent_cases (rest : List Char) : exponent rest = [] ∨
    ∃ letter sign digits, exponent rest = letter :: (sign ++ digits) ∧
      (letter = 'e' ∨ letter = 'E') ∧ (sign = [] ∨ sign = ['+'] ∨ sign = ['-']) ∧
      digits ≠ [] ∧ ∀ digit ∈ digits, digit.isDigit = true := by
  cases rest with
  | nil => exact .inl rfl
  | cons letter rest =>
      rw [exponent]
      split
      · next power =>
          dsimp only
          split
          · exact .inl rfl
          · next digits something =>
              refine .inr ⟨letter, _, _, rfl, power, ?_, ?_, ?_⟩
              · cases rest with
                | nil => exact .inl rfl
                | cons sign rest =>
                    by_cases plus : sign = '+'
                    · simp [plus]
                    · by_cases minus : sign = '-' <;> simp [plus, minus]
              · exact something
              · intro digit member
                exact List.mem_takeWhile_imp member
      · exact .inl rfl

/-- A letter, a sign and digits on their own are read as an exponent. -/
theorem exponent_raised {letter : Char} {sign digits : List Char}
    (letters : letter = 'e' ∨ letter = 'E') (signs : sign = [] ∨ sign = ['+'] ∨ sign = ['-'])
    (something : digits ≠ []) (all : ∀ digit ∈ digits, digit.isDigit = true) :
    exponent (letter :: (sign ++ digits)) = letter :: (sign ++ digits) := by
  rw [exponent, if_pos letters]
  obtain ⟨first, others, rfl⟩ := List.exists_cons_of_ne_nil something
  have digit := all first List.mem_cons_self
  have notPlus : first ≠ '+' := ne_of_holds digit '+' (by decide)
  have notMinus : first ≠ '-' := ne_of_holds digit '-' (by decide)
  have taken : (first :: others).takeWhile Char.isDigit = first :: others :=
    List.takeWhile_eq_self_iff.mpr all
  rcases signs with rfl | rfl | rfl
  · simp [notPlus, notMinus, taken]
  · simp [taken]
  · simp [taken]

/-- What is read as an exponent is read as one on its own. -/
theorem exponent_exponent (rest : List Char) : exponent (exponent rest) = exponent rest := by
  rcases exponent_cases rest with
    none | ⟨letter, sign, digits, same, letters, signs, something, all⟩
  · rw [none]
    rfl
  · rw [same, exponent_raised letters signs something all]

theorem point_cases (rest : List Char) :
    point rest = ['.'] ∨ point rest = [] ∧ rest.head? ≠ some '.' := by
  cases rest with
  | nil => exact .inr ⟨rfl, nofun⟩
  | cons first rest => by_cases period : first = '.' <;> simp [point, period]

/-- The parts of a number: digits before and behind a point, and an exponent. -/
structure IsNumber (whole dot fraction power : List Char) : Prop where
  before : ∀ digit ∈ whole, digit.isDigit = true
  pointed : dot = ['.'] ∨ dot = [] ∧ fraction = []
  behind : ∀ digit ∈ fraction, digit.isDigit = true
  raised : exponent power = power
  starts : whole ++ dot ≠ []
  something : whole ++ dot ++ fraction ≠ ['.']

/-- Without a point no digits follow those before it. -/
theorem point_dropWhile_cases (characters : List Char) :
    let rest := characters.dropWhile Char.isDigit
    point rest = ['.'] ∨
      point rest = [] ∧ (rest.drop (point rest).length).takeWhile Char.isDigit = [] := by
  intro rest
  refine (point_cases rest).imp_right fun noPoint => ⟨noPoint.1, ?_⟩
  rw [noPoint.1, List.length_nil, List.drop_zero]
  cases left : rest with
  | nil => rfl
  | cons next others =>
      have stops := List.head?_dropWhile_not Char.isDigit characters
      rw [show characters.dropWhile Char.isDigit = next :: others from left] at stops
      exact List.takeWhile_cons_of_neg (by simpa using stops)

/-- A number is made of the parts that it is read off by. -/
theorem isNumber_of_scanNumber {first : Char} {rest after : List Char} {numeral : String}
    {long : Bool} (begins : first.isDigit = true ∨ first = '.')
    (found : scanNumber dialect (first :: rest) = (some (.number numeral long), after)) :
    ∃ whole dot fraction power, IsNumber whole dot fraction power ∧
      numeral = String.ofList (whole ++ dot ++ fraction ++ power) := by
  have pointed := point_dropWhile_cases (first :: rest)
  have starts : (first :: rest).takeWhile Char.isDigit ++
      point ((first :: rest).dropWhile Char.isDigit) ≠ [] := by
    rcases begins with digit | rfl
    · rw [List.takeWhile_cons_of_pos digit]
      exact List.cons_ne_nil _ _
    · exact List.cons_ne_nil '.' []
  unfold scanNumber at found
  simp only at found pointed
  split at found
  · cases found
  · split at found
    · cases found
    · next something =>
        have number := fun rest => IsNumber.mk (fun _ => List.mem_takeWhile_imp) pointed
          (fun _ => List.mem_takeWhile_imp) (exponent_exponent rest) starts something
        split at found
        · cases found
        · split at found <;> exact ⟨_, _, _, _, number _,
            (Token.number.inj (Option.some.inj (Prod.mk.inj found).1)).1.symm⟩

/-- The parts that a number is made of are read off it again, one after the other. -/
theorem IsNumber.read {whole dot fraction power : List Char}
    (number : IsNumber whole dot fraction power) :
    (whole ++ (dot ++ (fraction ++ power))).takeWhile Char.isDigit = whole ∧
      (whole ++ (dot ++ (fraction ++ power))).dropWhile Char.isDigit =
        dot ++ (fraction ++ power) ∧
      point (dot ++ (fraction ++ power)) = dot ∧
      (fraction ++ power).takeWhile Char.isDigit = fraction ∧
      (fraction ++ power).dropWhile Char.isDigit = power ∧
      (dot ++ (fraction ++ power)).head? ≠ some 'x' := by
  obtain ⟨before, pointed, behind, raised, -, -⟩ := number
  have powerStops : ∀ next ∈ power.head?, next = 'e' ∨ next = 'E' := by
    rcases exponent_cases power with none | ⟨letter, sign, digits, same, letters, -⟩
    · rw [raised.symm.trans none]
      nofun
    · rw [raised.symm.trans same]
      rintro _ ⟨⟩
      exact letters
  have fractionStops : ∀ next ∈ power.head?, next.isDigit = false := by
    intro next first
    rcases powerStops next first with rfl | rfl <;> decide
  have dotStops : ∀ next ∈ (dot ++ (fraction ++ power)).head?,
      next = '.' ∨ next = 'e' ∨ next = 'E' := by
    rcases pointed with rfl | ⟨rfl, rfl⟩
    · rintro _ ⟨⟩
      exact .inl rfl
    · exact fun next first => .inr (powerStops next first)
  have wholeStops : ∀ next ∈ (dot ++ (fraction ++ power)).head?, next.isDigit = false := by
    intro next first
    rcases dotStops next first with rfl | rfl | rfl <;> decide
  obtain ⟨wholeTaken, wholeLeft⟩ := takeWhile_append_of_head? before wholeStops
  obtain ⟨fractionTaken, fractionLeft⟩ := takeWhile_append_of_head? behind fractionStops
  refine ⟨wholeTaken, wholeLeft, ?_, fractionTaken, fractionLeft, fun first => ?_⟩
  · rcases pointed with rfl | ⟨rfl, rfl⟩
    · rfl
    · refine (point_cases power).elim (fun period => ?_) And.left
      have first : power.head? = some '.' := by
        cases power with
        | nil => cases period
        | cons next others => by_cases same : next = '.' <;> simp_all [point]
      rcases powerStops '.' first with same | same <;> cases same
  · rcases dotStops 'x' first with same | same | same <;> cases same

/-- The parts of a number on their own are read as the number. -/
theorem IsNumber.scanNumber {whole dot fraction power : List Char}
    (number : IsNumber whole dot fraction power) :
    Sql.scanNumber dialect (whole ++ (dot ++ (fraction ++ power))) =
      (some (.number (String.ofList (whole ++ dot ++ fraction ++ power)) false), []) := by
  obtain ⟨wholeTaken, wholeLeft, dotTaken, fractionTaken, fractionLeft, noHexadecimal⟩ :=
    number.read
  unfold Sql.scanNumber
  simp only [wholeTaken, wholeLeft, noHexadecimal, and_false, if_false, dotTaken,
    List.drop_left, fractionTaken, fractionLeft, number.something, number.raised,
    List.drop_length]
  simp

/-- A number is made of its parts in one way. -/
theorem IsNumber.unique {whole dot fraction power : List Char}
    {otherWhole otherDot otherFraction otherPower : List Char}
    (number : IsNumber whole dot fraction power)
    (other : IsNumber otherWhole otherDot otherFraction otherPower)
    (same : whole ++ (dot ++ (fraction ++ power)) =
      otherWhole ++ (otherDot ++ (otherFraction ++ otherPower))) :
    whole = otherWhole ∧ dot = otherDot ∧ fraction = otherFraction ∧ power = otherPower := by
  obtain ⟨wholeTaken, wholeLeft, dotTaken, fractionTaken, fractionLeft, -⟩ := number.read
  obtain ⟨wholeToo, leftToo, dotToo, fractionToo, powerToo, -⟩ := other.read
  have sameWhole := congrArg (List.takeWhile Char.isDigit) same
  have sameRest := congrArg (List.dropWhile Char.isDigit) same
  rw [wholeTaken, wholeToo] at sameWhole
  rw [wholeLeft, leftToo] at sameRest
  have sameDot := congrArg point sameRest
  rw [dotTaken, dotToo] at sameDot
  rw [sameDot, List.append_cancel_left_eq] at sameRest
  have sameFraction := congrArg (List.takeWhile Char.isDigit) sameRest
  have samePower := congrArg (List.dropWhile Char.isDigit) sameRest
  rw [fractionTaken, fractionToo] at sameFraction
  rw [fractionLeft, powerToo] at samePower
  exact ⟨sameWhole, sameDot, sameFraction, samePower⟩

/-- A number starts with a digit or with its point. -/
theorem IsNumber.exists_cons {whole dot fraction power : List Char}
    (number : IsNumber whole dot fraction power) : ∃ first others,
      whole ++ (dot ++ (fraction ++ power)) = first :: others ∧
        (first.isDigit = true ∨ first = '.') := by
  cases whole with
  | cons first others => exact ⟨first, _, rfl, .inl (number.before first List.mem_cons_self)⟩
  | nil =>
      rcases number.pointed with rfl | ⟨rfl, -⟩
      · exact ⟨'.', _, rfl, .inr rfl⟩
      · exact absurd rfl number.starts

theorem scanStep_number {first : Char} (begins : first.isDigit = true ∨ first = '.')
    (rest : List Char) :
    scanStep dialect first rest = some (scanNumber dialect (first :: rest)) := by
  rcases begins with digit | rfl
  · exact scanStep_digit digit rest
  · have noString : scanAnnounced? dialect '.' rest = none := by simp [scanAnnounced?]
    have noLetter : announces dialect '.' = false := by cases dialect <;> rfl
    have noName : quotesName dialect '.' rest = false := by cases dialect <;> rfl
    simp [scanStep, noString, noLetter, noName]

theorem scanSign_ne_number (sign : Char) (rest : List Char) (numeral : String) (long : Bool) :
    (scanSign dialect sign rest).1 ≠ some (.number numeral long) := by
  unfold scanSign
  repeat' split
  all_goals first
    | exact scanSymbol_ne_spelled rfl _ _
    | rintro ⟨⟩

/-- A number is read off where it starts with a digit or with its point. -/
theorem number_of_scanStep {first : Char} {rest after : List Char} {numeral : String} {long : Bool}
    (found : scanStep dialect first rest = some (some (.number numeral long), after)) :
    (first.isDigit = true ∨ first = '.') ∧
      scanNumber dialect (first :: rest) = (some (.number numeral long), after) := by
  have string : ∀ {form triple : StringForm} {quote : Char} {backslash : Bool} {rest : List Char},
      scanStringOrTriple dialect form triple quote backslash rest ≠
        some (some (.number numeral long), after) := by
    intro form triple quote backslash rest found
    obtain ⟨form, text, same⟩ := token?_of_scanStringOrTriple found
    cases same
  revert found
  fun_cases scanStep dialect first rest with
  | case2 _ announced read =>
      rintro rfl
      obtain ⟨form, text, same⟩ := token?_of_scanAnnounced? read
      cases same
  | case4 | case5 => exact fun found => absurd found string
  | case6 =>
      intro found
      obtain ⟨read, -, same⟩ := Option.map_eq_some_iff.mp found
      cases same
  | case7 _ _ _ _ _ begins => exact fun found => ⟨by simpa using begins, Option.some.inj found⟩
  | case8 _ _ _ _ _ _ comment read =>
      rintro rfl
      cases token?_of_scanComment? read
  | case10 =>
      exact fun found => absurd (congrArg Prod.fst (Option.some.inj found))
        (scanSign_ne_number first rest numeral long)
  | case11 =>
      exact fun found => absurd (congrArg Prod.fst (Option.some.inj found))
        (scanQuestion_ne_spelled rfl rest)
  | case13 =>
      exact fun found => absurd (congrArg Prod.fst (Option.some.inj found))
        (scanSymbol_ne_spelled rfl first rest)
  | case14 => exact fun found => absurd rfl (scanDollar_ne_spelled rfl found)
  | _ => rintro ⟨⟩

/-- Where a number starts there is no sign that would go on an operator. -/
theorem isOperatorCharacter_of_begins {first : Char}
    (begins : first.isDigit = true ∨ first = '.') : isOperatorCharacter first = false := by
  have signs : "+-*/<>=~!@#%^&|`?".toList.all
      (fun sign => !sign.isDigit && decide (sign ≠ '.')) = true := by decide
  rw [← Bool.not_eq_true]
  intro holds
  have sign := List.all_eq_true.mp signs first (List.contains_iff_mem.mp holds)
  rcases begins with digit | rfl
  · rw [digit] at sign
    cases sign
  · cases sign

/-- A minus sign before a number is a symbol of its own. -/
theorem scanStep_minus {first : Char} (begins : first.isDigit = true ∨ first = '.')
    (rest : List Char) :
    scanStep dialect '-' (first :: rest) = some (some (.symbol "-"), first :: rest) := by
  have apart : ∀ other, other.isDigit = false → other ≠ '.' → first ≠ other := by
    rintro _ noDigit noPoint rfl
    exact begins.elim (fun digit => Bool.noConfusion (noDigit.symm.trans digit)) noPoint
  have notMinus := apart '-' (by decide) (by decide)
  have notGreater := apart '>' (by decide) (by decide)
  have noOperator := isOperatorCharacter_of_begins begins
  have sign : symbolAtStart? symbols ('-' :: first :: rest) = some ("-", first :: rest) := by
    simp [symbolAtStart?, symbols, Text.afterStart?, notGreater.symm]
  have noString : scanAnnounced? dialect '-' (first :: rest) = none := by simp [scanAnnounced?]
  have noLetter : announces dialect '-' = false := by cases dialect <;> rfl
  have noName : quotesName dialect '-' (first :: rest) = false := by cases dialect <;> rfl
  have noStart : dialect.startsName '-' = false := by cases dialect <;> rfl
  have noComment : scanComment? dialect '-' (first :: rest) = none := by
    simp [scanComment?, notMinus]
  simp [scanStep, noString, noLetter, noName, noComment, noStart, scanSymbol, sign, noOperator,
    symbolText]

end Sql

end OrmCode
