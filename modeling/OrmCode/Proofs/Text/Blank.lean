import OrmCode.Text.Blank

/-!
# Blank characters

There are twenty-five blank characters, and what holds of each of them holds of all.  None
of them is a letter or a digit.
-/

namespace OrmCode

namespace Text

def blankCodes : List Nat :=
  [0x9, 0xa, 0xb, 0xc, 0xd, 0x20, 0x85, 0xa0, 0x1680, 0x2000, 0x2001, 0x2002, 0x2003, 0x2004,
    0x2005, 0x2006, 0x2007, 0x2008, 0x2009, 0x200a, 0x2028, 0x2029, 0x202f, 0x205f, 0x3000]

/-- What holds of each blank character holds of all of them. -/
theorem of_isBlank (holds : Char → Bool) {character : Char} (blank : isBlank character = true)
    (each : blankCodes.all (fun code => holds (Char.ofNat code)) = true) :
    holds character = true := by
  have listed : character.toNat ∈ blankCodes := by
    simp only [isBlank, Bool.or_eq_true, Bool.and_eq_true, decide_eq_true_eq, beq_iff_eq] at blank
    simp only [blankCodes, List.mem_cons, List.not_mem_nil]
    omega
  have found := List.all_eq_true.mp each _ listed
  rwa [Char.ofNat_toNat] at found

theorem ne_of_isBlank {blank other : Char} (isBlank : isBlank blank = true)
    (notBlank : Text.isBlank other = false) : blank ≠ other := by
  rintro rfl
  rw [isBlank] at notBlank
  cases notBlank

theorem allBlank_append (before after : String) :
    allBlank (before ++ after) = (allBlank before && allBlank after) := by
  rw [allBlank, String.toList_append, List.all_append, allBlank, allBlank]

theorem not_mem_of_allBlank {blanks : String} (blank : allBlank blanks = true) {other : Char}
    (notBlank : isBlank other = false) : other ∉ blanks.toList :=
  fun member => ne_of_isBlank (List.all_eq_true.mp blank other member) notBlank rfl

theorem isDigit_of_isBlank {blank : Char} (isBlank : isBlank blank = true) :
    blank.isDigit = false := by
  simpa using of_isBlank (fun character => !character.isDigit) isBlank (by decide)

theorem isBlank_of_isAlpha {character : Char} (letter : character.isAlpha = true) :
    isBlank character = false := by
  rw [← Bool.not_eq_true]
  intro blank
  have apart := of_isBlank (fun character => !character.isAlpha) blank (by decide)
  rw [letter] at apart
  cases apart

end Text

end OrmCode
