import OrmCode.Proofs.Scan.Symbol

/-!
# What a blank after a step of reading does to it

Each kind of token is settled by a blank that no name of the dialect goes on
with.  Only signs that wait for a name and brackets that wait for one look
further, and a comment that ends with its line has no end before a blank.
-/

namespace OrmCode

namespace Sql

variable {dialect : Dialect} {blank : Char}

/-- A string that a letter announces is read by a settled scanner, before a blank too. -/
theorem announced_append (isBlank : Text.isBlank blank = true) {first : Char} {rest : List Char}
    {announced : Option Scanned} (found : scanAnnounced? dialect first rest = some announced) :
    ∃ (scan : List Char → Option Scanned) (body : List Char), body <:+ rest ∧
      SettledAt blank scan body ∧ announced = scan body ∧
      ∀ tail, scanAnnounced? dialect first (rest ++ blank :: tail) =
        some (scan (body ++ blank :: tail)) := by
  have notSingle := Text.ne_of_isBlank isBlank (by decide : Text.isBlank '\x27' = false)
  have notDouble := Text.ne_of_isBlank isBlank (by decide : Text.isBlank '\x22' = false)
  revert found
  fun_cases scanAnnounced? dialect first rest with
  | case1 body letter known | case3 body letter known | case5 body letter known
    | case7 body letter known =>
      intro found
      refine ⟨_, body, List.suffix_cons _ _, settled_scanStringOrTriple (by assumption) _ _ _ body,
        (Option.some.inj found).symm, fun tail => ?_⟩
      simp only [List.cons_append, scanAnnounced?, letter, if_pos known]
  | case9 body letter =>
      intro found
      refine ⟨_, body, List.suffix_cons _ _, settled_scanString notSingle .national true body,
        (Option.some.inj found).symm, fun tail => ?_⟩
      simp only [List.cons_append, scanAnnounced?, letter]
  | case10 body letter =>
      intro found
      refine ⟨_, body, List.suffix_cons _ _, settled_escapedString isBlank body,
        (Option.some.inj found).symm, fun tail => ?_⟩
      simp only [List.cons_append, scanAnnounced?, letter]
  | case11 body letter known =>
      intro found
      refine ⟨_, body, ⟨['&', '\x27'], rfl⟩, settled_unicodeString isBlank body,
        (Option.some.inj found).symm, fun tail => ?_⟩
      simp only [List.cons_append, scanAnnounced?, letter, if_pos known]
  | case13 body letter =>
      intro found
      refine ⟨_, body, List.suffix_cons _ _, settled_scanString notSingle .hexadecimal true body,
        (Option.some.inj found).symm, fun tail => ?_⟩
      simp only [List.cons_append, scanAnnounced?, letter]
  | _ => intro found; cases found

/-- A letter that announces no string announces none before a blank. -/
theorem not_announced_append (isBlank : Text.isBlank blank = true) {first : Char}
    {rest : List Char} (nothing : scanAnnounced? dialect first rest = none) (tail : List Char) :
    scanAnnounced? dialect first (rest ++ blank :: tail) = none := by
  have notSingle := Text.ne_of_isBlank isBlank (by decide : Text.isBlank '\x27' = false)
  have notDouble := Text.ne_of_isBlank isBlank (by decide : Text.isBlank '\x22' = false)
  have notAnd := Text.ne_of_isBlank isBlank (by decide : Text.isBlank '&' = false)
  revert nothing
  fun_cases scanAnnounced? dialect first rest with
  | case2 body letter unknown | case4 body letter unknown | case6 body letter unknown
    | case8 body letter unknown | case12 body letter unknown =>
      intro nothing
      simp only [List.cons_append, scanAnnounced?, letter, if_neg unknown]
  | case14 rest noBytes noBytes' noRaw noRaw' noNational noEscaped noUnicode noHexadecimal =>
      intro nothing
      rw [scanAnnounced?]
      · exact fun body letter => starts_append notSingle (fun left => noBytes left letter) tail body
      · exact fun body letter =>
          starts_append notDouble (fun left => noBytes' left letter) tail body
      · exact fun body letter => starts_append notSingle (fun left => noRaw left letter) tail body
      · exact fun body letter => starts_append notDouble (fun left => noRaw' left letter) tail body
      · exact fun body letter =>
          starts_append notSingle (fun left => noNational left letter) tail body
      · exact fun body letter =>
          starts_append notSingle (fun left => noEscaped left letter) tail body
      · intro body letter same
        match rest with
        | [] => exact notAnd (List.cons.inj same).1
        | [only] => exact notSingle (List.cons.inj (List.cons.inj same).2).1
        | second :: third :: others =>
            refine noUnicode others letter ?_
            rw [(List.cons.inj same).1, (List.cons.inj (List.cons.inj same).2).1]
      · exact fun body letter =>
          starts_append notSingle (fun left => noHexadecimal left letter) tail body
  | _ => intro nothing; cases nothing

theorem scanComment?_append (isBlank : Text.isBlank blank = true) {first : Char}
    {rest : List Char} (nothing : scanComment? dialect first rest = none) (tail : List Char) :
    scanComment? dialect first (rest ++ blank :: tail) = none := by
  have notMinus := Text.ne_of_isBlank isBlank (by decide : Text.isBlank '-' = false)
  have notStar := Text.ne_of_isBlank isBlank (by decide : Text.isBlank '*' = false)
  have notSlash := Text.ne_of_isBlank isBlank (by decide : Text.isBlank '/' = false)
  revert nothing
  fun_cases scanComment? dialect first rest with
  | case4 body other =>
      intro nothing
      simp only [List.cons_append, scanComment?, if_neg other]
  | case6 body other =>
      intro nothing
      simp only [scanComment?, if_neg other]
  | case7 first rest noHash noLine noBlock noSlashes =>
      intro nothing
      rw [scanComment?]
      · exact noHash
      · exact fun body sign => starts_append notMinus (fun left => noLine left sign) tail body
      · exact fun body sign => starts_append notStar (fun left => noBlock left sign) tail body
      · exact fun body sign => starts_append notSlash (fun left => noSlashes left sign) tail body
  | _ => intro nothing; cases nothing

/-- Whether a bracket at the end of some characters waits for a name after them. -/
def bracketWaits (dialect : Dialect) (opening : Char) (rest : List Char) : Bool :=
  dialect == .redshift && dialect.opensQuotedName opening && rest.all Text.isBlank

theorem quotesName_append {opening : Char} {rest : List Char}
    (stays : bracketWaits dialect opening rest = false) (tail : List Char) :
    quotesName dialect opening (rest ++ tail) = quotesName dialect opening rest := by
  unfold quotesName
  by_cases looks : dialect = .redshift ∧ dialect.opensQuotedName opening = true
  · obtain ⟨rfl, opens⟩ := looks
    have someNext : ¬(rest.dropWhile Text.isBlank).isEmpty = true := by
      intro nothing
      rw [List.isEmpty_iff, List.dropWhile_eq_nil_iff] at nothing
      simp [bracketWaits, opens, List.all_eq_true.mpr nothing] at stays
    rw [List.dropWhile_append, if_neg someNext, List.head?_append_of_ne_nil]
    rwa [List.isEmpty_iff] at someNext
  · rcases not_and_or.mp looks with other | closed
    · rw [bne_iff_ne.mpr other, Bool.true_or, Bool.true_or]
    · rw [Bool.eq_false_iff.mpr closed, Bool.false_and, Bool.false_and]

theorem isBlank_closingQuote {opening : Char} {rest : List Char}
    (quotes : quotesName dialect opening rest = true) :
    Text.isBlank (closingQuote opening) = false := by
  have opens : dialect.opensQuotedName opening = true := (Bool.and_eq_true _ _ ▸ quotes).1
  have quote : opening = '\x60' ∨ opening = '\x22' ∨ opening = '[' := by
    cases dialect <;> simp [Dialect.opensQuotedName] at opens <;> tauto
  rcases quote with rfl | rfl | rfl <;> decide

theorem settled_quotedName {closing : Char} (apart : blank ≠ closing) (opening : Char)
    (characters : List Char) :
    SettledAt blank (fun rest => (untilNameEnd closing rest).map fun (text, after) =>
      (some (Token.word (String.ofList text) (some opening)), after)) characters :=
  (settled_untilNameEnd apart characters).of_map
    (fun text => some (.word (String.ofList text) (some opening))) (List.suffix_refl _) rfl
    fun _ => rfl

/-- Whether a step of reading looks for more than a blank after some characters. -/
def hangs (dialect : Dialect) (first : Char) (rest : List Char) : Bool :=
  (first == '#' || first == '@') && waits dialect first rest || bracketWaits dialect first rest

/-- Every step but a comment is settled by a blank that stands in no name. -/
theorem settled_scanStep (separates : dialect.separates blank = true) {first : Char}
    {rest : List Char} (noComment : scanComment? dialect first rest = none)
    (stays : hangs dialect first rest = false)
    (noQuestion : ¬(dialect = .postgresql ∧ first = '?')) :
    SettledAt blank (scanStep dialect first) rest := by
  have isBlank := (Dialect.separates_iff.mp separates).1
  have refused := Dialect.continuesName_of_separates separates
  have notSingle := Text.ne_of_isBlank isBlank (by decide : Text.isBlank '\x27' = false)
  have notDouble := Text.ne_of_isBlank isBlank (by decide : Text.isBlank '\x22' = false)
  have notSlash := Text.ne_of_isBlank isBlank (by decide : Text.isBlank '/' = false)
  simp only [hangs, Bool.or_eq_false_iff] at stays
  have word := settled_scanWord refused [first] rest
  -- The cases follow the tests of `scanStep` in their order: each test comes out the same
  -- with a blank behind the text, and then the scanner it selects is settled.
  intro value after found
  unfold scanStep at found ⊢
  by_cases plain : first = ' ' ∨ first = '\t' ∨ first = '\n' ∨ first = '\x0d'
  · simp only [if_pos plain] at found ⊢
    obtain ⟨rfl, rfl⟩ := Prod.mk.inj (Option.some.inj found)
    exact ⟨List.suffix_refl _, fun tail => rfl⟩
  simp only [if_neg plain] at found ⊢
  cases announced : scanAnnounced? dialect first rest with
  | some string =>
      obtain ⟨scan, body, isEnd, settled, rfl, again⟩ := announced_append isBlank announced
      simp only [announced] at found
      simp only [again]
      obtain ⟨afterIsEnd, there⟩ := settled found
      exact ⟨afterIsEnd.trans isEnd, there⟩
  | none =>
      simp only [announced, not_announced_append isBlank announced,
        quotesName_append stays.2, noComment, scanComment?_append isBlank noComment,
        head?_append_blank notSlash] at found ⊢
      by_cases letter : announces dialect first = true
      · simp only [if_pos letter] at found ⊢
        exact word found
      simp only [if_neg letter] at found ⊢
      by_cases single : first = '\x27'
      · simp only [if_pos single] at found ⊢
        subst single
        exact settled_scanStringOrTriple notSingle _ _ _ rest found
      simp only [if_neg single] at found ⊢
      by_cases double : first = '\x22' ∧ dialect.opensQuotedName first = false
      · simp only [if_pos double] at found ⊢
        exact settled_scanStringOrTriple (double.1 ▸ notDouble) _ _ _ rest found
      simp only [if_neg double] at found ⊢
      by_cases quoted : quotesName dialect first rest = true
      · simp only [if_pos quoted] at found ⊢
        have apart := Text.ne_of_isBlank isBlank (isBlank_closingQuote quoted)
        exact settled_quotedName apart first rest found
      simp only [if_neg quoted] at found ⊢
      by_cases number : (first.isDigit || first == '.') = true
      · simp only [if_pos number] at found ⊢
        exact settled_scanNumber isBlank refused (by simpa using number) found
      simp only [if_neg number] at found ⊢
      by_cases slashes : first = '/' ∧ rest.head? = some '/' ∧
          dialect.isAmong [.duckdb, .generic] = true
      · simp only [if_pos slashes] at found ⊢
        obtain ⟨rfl, rfl⟩ := Prod.mk.inj (Option.some.inj found)
        obtain ⟨others, rfl⟩ := List.head?_eq_some_iff.mp slashes.2.1
        exact ⟨List.suffix_cons _ _, fun tail => rfl⟩
      simp only [if_neg slashes] at found ⊢
      by_cases sign : first = '#' ∨ first = '@'
      · simp only [if_pos sign] at found ⊢
        rcases sign with rfl | rfl
        · exact settled_scanHash isBlank refused (by simpa using stays.1) found
        · exact settled_scanAt isBlank refused (by simpa using stays.1) found
      simp only [if_neg sign] at found ⊢
      by_cases question : first = '?'
      · simp only [if_pos question] at found ⊢
        have other : ¬dialect = .postgresql := fun same => noQuestion ⟨same, question⟩
        have noDigit := Text.isDigit_of_isBlank isBlank
        simp only [scanQuestion, if_neg other, takeWhile_append_blank _ noDigit,
          dropWhile_append_blank _ noDigit] at found ⊢
        obtain ⟨rfl, rfl⟩ := Prod.mk.inj (Option.some.inj found)
        exact ⟨List.dropWhile_suffix _, fun tail => rfl⟩
      simp only [if_neg question] at found ⊢
      by_cases named : dialect.startsName first = true
      · simp only [if_pos named] at found ⊢
        exact word found
      simp only [if_neg named] at found ⊢
      simp only [symbolAtStart?_isSome isBlank] at found ⊢
      by_cases symbol : (symbolAtStart? symbols (first :: rest)).isSome = true
      · simp only [if_pos symbol] at found ⊢
        exact settled_scanSymbol isBlank first rest found
      simp only [if_neg symbol] at found ⊢
      by_cases dollar : first = '$'
      · simp only [if_pos dollar] at found ⊢
        exact settled_scanDollar isBlank rest found
      simp only [if_neg dollar] at found ⊢
      by_cases space : Text.isBlank first = true
      · simp only [if_pos space] at found ⊢
        obtain ⟨rfl, rfl⟩ := Prod.mk.inj (Option.some.inj found)
        exact ⟨List.suffix_refl _, fun tail => rfl⟩
      · simp only [if_neg space] at found ⊢
        obtain ⟨rfl, rfl⟩ := Prod.mk.inj (Option.some.inj found)
        exact ⟨List.suffix_refl _, fun tail => rfl⟩

theorem suffix_of_scanSymbol (first : Char) (rest : List Char) :
    (scanSymbol dialect first rest).2 <:+ rest :=
  (settled_scanSymbol (by decide : Text.isBlank ' ' = true) first rest rfl).1

theorem suffix_of_scanSign (sign : Char) (rest : List Char) :
    (scanSign dialect sign rest).2 <:+ rest := by
  have afterWord : ∀ begun next after, (scanWord dialect begun after).2 <:+ next :: after :=
    fun begun next after => (List.dropWhile_suffix _).trans (List.suffix_cons _ _)
  fun_cases scanSign dialect sign rest with
  | case1 next after named => exact (afterWord _ _ _).trans (List.suffix_cons _ _)
  | case2 next after unnamed => exact List.suffix_cons _ _
  | case5 => exact afterWord _ _ _
  | case9 sign next after _ _ named =>
      simp only [if_pos named]
      exact afterWord _ _ _
  | case10 sign next after _ _ unnamed =>
      simp only [if_neg unnamed]
      exact suffix_of_scanSymbol _ _
  | case4 | case7 | case11 => exact suffix_of_scanSymbol _ _
  | _ => exact List.suffix_refl _

theorem suffix_of_scanQuestion (rest : List Char) : (scanQuestion dialect rest).2 <:+ rest := by
  fun_cases scanQuestion dialect rest with
  | case1 _ after => exact List.suffix_cons _ _
  | case2 _ after => exact List.suffix_cons _ _
  | case3 => exact List.drop_suffix _ _
  | case4 => exact List.dropWhile_suffix _

theorem suffix_of_afterComment {depth : Nat} {previous : Char} {rest after : List Char}
    (found : afterComment depth previous rest = some after) : after <:+ rest := by
  fun_induction afterComment depth previous rest with
  | case1 => cases found
  | case3 => exact Option.some.inj found ▸ List.suffix_cons _ _
  | case2 _ _ _ rest _ induction | case4 _ _ rest _ _ _ induction
    | case5 _ _ _ rest _ _ induction =>
      exact (induction found).trans (List.suffix_cons _ _)

theorem suffix_of_afterLine (rest : List Char) : afterLine rest <:+ rest :=
  (List.drop_suffix _ _).trans (List.dropWhile_suffix _)

theorem suffix_of_scanComment? {first : Char} {rest after : List Char} {token? : Option Token}
    (found : scanComment? dialect first rest = some (some (token?, after))) : after <:+ rest := by
  revert found
  fun_cases scanComment? dialect first rest with
  | case1 body | case3 body =>
      intro found
      obtain ⟨rfl, rfl⟩ := Prod.mk.inj (Option.some.inj (Option.some.inj found))
      exact (suffix_of_afterLine _).trans (List.suffix_cons _ _)
  | case2 body =>
      intro found
      obtain ⟨left, closed, same⟩ := Option.map_eq_some_iff.mp (Option.some.inj found)
      obtain ⟨rfl, rfl⟩ := Prod.mk.inj same
      exact (suffix_of_afterComment closed).trans (List.suffix_cons _ _)
  | case5 =>
      intro found
      obtain ⟨rfl, rfl⟩ := Prod.mk.inj (Option.some.inj (Option.some.inj found))
      exact suffix_of_afterLine _
  | _ => intro found; cases found

/-- A step leaves an end of what follows its first character. -/
theorem suffix_of_scanStep {first : Char} {rest after : List Char} {token? : Option Token}
    (found : scanStep dialect first rest = some (token?, after)) : after <:+ rest := by
  have space : Text.isBlank ' ' = true := by decide
  have left : ∀ {scanned : Scanned}, some scanned = some (token?, after) → scanned.2 <:+ rest →
      after <:+ rest := by
    intro scanned same isEnd
    rwa [Option.some.inj same] at isEnd
  revert found
  fun_cases scanStep dialect first rest with
  | case1 | case15 | case16 => exact fun found => left found (List.suffix_refl _)
  | case2 _ announced read =>
      intro found
      obtain ⟨scan, body, isEnd, settled, rfl, -⟩ := announced_append space read
      exact (settled found).1.trans isEnd
  | case3 | case12 => exact fun found => left found (List.dropWhile_suffix _)
  | case4 _ _ quote =>
      subst quote
      exact fun found => (settled_scanStringOrTriple (by decide : ' ' ≠ '\x27') _ _ _ rest found).1
  | case5 _ _ _ quote =>
      obtain ⟨rfl, -⟩ := quote
      exact fun found => (settled_scanStringOrTriple (by decide : ' ' ≠ '\x22') _ _ _ rest found).1
  | case6 _ _ _ _ quotes =>
      have apart := Text.ne_of_isBlank space (isBlank_closingQuote quotes)
      exact fun found => (settled_quotedName apart first rest found).1
  | case7 _ _ _ _ _ number =>
      exact fun found => left found (suffix_of_scanNumber (by simpa using number))
  | case8 _ _ _ _ _ _ comment read =>
      rintro rfl
      exact suffix_of_scanComment? read
  | case9 => exact fun found => left found (List.drop_suffix _ _)
  | case10 => exact fun found => left found (suffix_of_scanSign first rest)
  | case11 => exact fun found => left found (suffix_of_scanQuestion rest)
  | case13 => exact fun found => left found (suffix_of_scanSymbol first rest)
  | case14 => exact fun found => (settled_scanDollar space rest found).1

end Sql

end OrmCode
