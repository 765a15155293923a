import OrmCode.Proofs.Scan.Step

/-!
# The tokens of characters

Reading takes one step after another, with fuel for all of them.  Between tokens it passes over
blanks that start no name.
-/

namespace OrmCode

namespace Sql

variable {dialect : Dialect}

/-- The fuel of reading does not matter where it is enough. -/
theorem scanAll_eq {characters : List Char} {fuel more : Nat} (enough : characters.length ≤ fuel)
    (enoughToo : characters.length ≤ more) :
    scanAll dialect fuel characters = scanAll dialect more characters := by
  induction fuel generalizing characters more with
  | zero =>
      obtain rfl := List.length_eq_zero_iff.mp (Nat.le_zero.mp enough)
      rw [scanAll, scanAll]
  | succ fuel induction =>
      cases characters with
      | nil => rw [scanAll, scanAll]
      | cons first rest =>
          obtain ⟨more, rfl⟩ := Nat.exists_eq_succ_of_ne_zero (Nat.ne_zero_of_lt enoughToo)
          rw [scanAll, scanAll]
          cases found : scanStep dialect first rest with
          | none => rfl
          | some scanned =>
              have short := (suffix_of_scanStep found).length_le
              rw [List.length_cons] at enough enoughToo
              simp only [Option.bind_some]
              rw [induction (by omega) (by omega : scanned.2.length ≤ more)]

/-- The tokens of some characters. -/
def tokens? (dialect : Dialect) (characters : List Char) : Option (List Token) :=
  scanAll dialect characters.length characters

theorem scan_eq_tokens? (text : String) : scan dialect text = tokens? dialect text.toList := by
  rw [scan, tokens?, String.length_toList]

theorem tokens?_nil : tokens? dialect [] = some [] := rfl

theorem tokens?_cons (first : Char) (rest : List Char) :
    tokens? dialect (first :: rest) =
      (scanStep dialect first rest).bind fun (token?, after) =>
        (tokens? dialect after).map fun tokens => token?.toList ++ tokens := by
  rw [tokens?, List.length_cons, scanAll]
  cases found : scanStep dialect first rest with
  | none => rfl
  | some scanned =>
      have short := (suffix_of_scanStep found).length_le
      simp only [Option.bind_some, tokens?]
      rw [scanAll_eq short (Nat.le_refl _)]

theorem tokens?_of_step {first : Char} {rest after : List Char} {token? : Option Token}
    (found : scanStep dialect first rest = some (token?, after)) :
    tokens? dialect (first :: rest) =
      (tokens? dialect after).map fun tokens => token?.toList ++ tokens := by
  rw [tokens?_cons, found]
  rfl

theorem symbolAtStart?_of_isBlank {blank : Char} (isBlank : Text.isBlank blank = true)
    (rest : List Char) : symbolAtStart? symbols (blank :: rest) = none := by
  rw [symbolAtStart?, List.findSome?_eq_none_iff]
  intro symbol member
  obtain ⟨something, plain⟩ := symbols_plain member
  cases spelled : symbol.toList with
  | nil => exact absurd spelled something
  | cons wanted lead =>
      have different := Text.ne_of_isBlank isBlank (plain wanted (spelled ▸ List.mem_cons_self))
      rw [Text.afterStart?, if_neg different.symm]
      rfl

/-- No blank is one of the letters that announce strings. -/
theorem toUpper_of_isBlank {blank : Char} (isBlank : Text.isBlank blank = true) :
    blank.toUpper ∉ ['B', 'R', 'N', 'E', 'U', 'X'] := by
  simpa using Text.of_isBlank (fun character =>
    !(['B', 'R', 'N', 'E', 'U', 'X'].contains character.toUpper)) isBlank (by decide)

theorem scanAnnounced?_of_isBlank {blank : Char} (isBlank : Text.isBlank blank = true)
    (rest : List Char) : scanAnnounced? dialect blank rest = none := by
  have letter := toUpper_of_isBlank isBlank
  rw [scanAnnounced?]
  all_goals (intro body same; simp_all)

theorem announces_of_isBlank {blank : Char} (isBlank : Text.isBlank blank = true) :
    announces dialect blank = false := by
  have letter := toUpper_of_isBlank isBlank
  unfold announces
  split <;> simp_all

theorem opensQuotedName_of_isBlank {blank : Char} (isBlank : Text.isBlank blank = true) :
    dialect.opensQuotedName blank = false := by
  have plain : (!dialect.opensQuotedName blank) = true := by
    cases dialect <;>
      exact Text.of_isBlank (fun character => !Dialect.opensQuotedName _ character) isBlank
        (by decide)
  simpa using plain

theorem scanComment?_of_isBlank {blank : Char} (isBlank : Text.isBlank blank = true)
    (rest : List Char) : scanComment? dialect blank rest = none := by
  have notHash := Text.ne_of_isBlank isBlank (by decide : Text.isBlank '#' = false)
  have notMinus := Text.ne_of_isBlank isBlank (by decide : Text.isBlank '-' = false)
  have notSlash := Text.ne_of_isBlank isBlank (by decide : Text.isBlank '/' = false)
  rw [scanComment?]
  · exact notHash
  · exact fun body same => absurd same notMinus
  · exact fun body same => absurd same notSlash
  · exact fun body same => absurd same notSlash

/-- A blank that starts no name is passed over. -/
theorem scanStep_of_separates {blank : Char} (separates : dialect.separates blank = true)
    (rest : List Char) : scanStep dialect blank rest = some (none, rest) := by
  obtain ⟨isBlank, startsNone⟩ := Dialect.separates_iff.mp separates
  have quotesNone : quotesName dialect blank rest = false := by
    rw [quotesName, opensQuotedName_of_isBlank isBlank, Bool.false_and]
  have apart : ∀ {other : Char}, Text.isBlank other = false → ¬blank = other :=
    fun notBlank => Text.ne_of_isBlank isBlank notBlank
  have notSingle : ¬blank = '\x27' := apart (by decide)
  have notDouble : ¬blank = '\x22' := apart (by decide)
  have notPoint : ¬blank = '.' := apart (by decide)
  have notSlash : ¬blank = '/' := apart (by decide)
  have notHash : ¬blank = '#' := apart (by decide)
  have notAt : ¬blank = '@' := apart (by decide)
  have notQuestion : ¬blank = '?' := apart (by decide)
  have notDollar : ¬blank = '$' := apart (by decide)
  simp [scanStep, scanAnnounced?_of_isBlank, announces_of_isBlank, scanComment?_of_isBlank,
    symbolAtStart?_of_isBlank, Text.isDigit_of_isBlank, isBlank, quotesNone, startsNone, notSingle,
    notDouble, notPoint, notSlash, notHash, notAt, notQuestion, notDollar]

/-- Blanks that start no name stand for nothing between tokens. -/
theorem tokens?_append_of_separates {gap : List Char}
    (separates : ∀ blank ∈ gap, dialect.separates blank = true) (rest : List Char) :
    tokens? dialect (gap ++ rest) = tokens? dialect rest := by
  induction gap with
  | nil => rfl
  | cons blank gap induction =>
      obtain ⟨here, later⟩ := List.forall_mem_cons.mp separates
      rw [List.cons_append, tokens?_of_step (scanStep_of_separates here _), induction later]
      exact Option.map_id'

end Sql

end OrmCode
