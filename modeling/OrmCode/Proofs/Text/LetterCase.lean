import OrmCode.Proofs.Text.Blank
import OrmCode.Proofs.Text.Identifier
import OrmCode.Text.LetterCase

/-!
# Letter case

Small letters stay what they are, whatever the case of the letters was before.  No blank
comes or goes with the case of letters.
-/

namespace OrmCode

namespace Text

theorem toNat_toLower (character : Char) :
    character.toLower.toNat =
      if 65 ≤ character.toNat ∧ character.toNat ≤ 90 then character.toNat + 32
      else character.toNat := by
  have bounds : (character.val ≥ 'A'.val ∧ character.val ≤ 'Z'.val) ↔
      65 ≤ character.toNat ∧ character.toNat ≤ 90 := Iff.rfl
  delta Char.toLower
  by_cases capital : 65 ≤ character.toNat ∧ character.toNat ≤ 90
  · rw [dif_pos (bounds.mpr capital), if_pos capital]
    change (character.val + ('a'.val - 'A'.val)).toNat = _
    rw [UInt32.toNat_add]
    exact Nat.mod_eq_of_lt (by change character.toNat + 32 < _; omega)
  · rw [dif_neg (mt bounds.mp capital), if_neg capital]

theorem toNat_toUpper (character : Char) :
    character.toUpper.toNat =
      if 97 ≤ character.toNat ∧ character.toNat ≤ 122 then character.toNat - 32
      else character.toNat := by
  have bounds : ('a'.val ≤ character.val ∧ character.val ≤ 'z'.val) ↔
      97 ≤ character.toNat ∧ character.toNat ≤ 122 := Iff.rfl
  delta Char.toUpper
  by_cases small : 97 ≤ character.toNat ∧ character.toNat ≤ 122
  · rw [dif_pos (bounds.mpr small), if_pos small]
    have distance : ('A'.val - 'a'.val).toNat = 2 ^ 32 - 32 := by decide
    change (character.val + ('A'.val - 'a'.val)).toNat = character.val.toNat - 32
    have code : 97 ≤ character.val.toNat ∧ character.val.toNat ≤ 122 := small
    rw [UInt32.toNat_add, distance]
    omega
  · rw [dif_neg (mt bounds.mp small), if_neg small]

theorem toLower_toUpper (character : Char) :
    character.toUpper.toLower = character.toLower := by
  grind [Char.toNat_inj, toNat_toLower, toNat_toUpper]

theorem toUpper_toLower (character : Char) :
    character.toLower.toUpper = character.toUpper := by
  grind [Char.toNat_inj, toNat_toLower, toNat_toUpper]

theorem lower_lower (text : String) : lower (lower text) = lower text := by
  rw [lower, lower_toList, List.map_map]
  refine congrArg String.ofList (List.map_congr_left fun character _ => ?_)
  grind [Char.toNat_inj, toNat_toLower]

theorem lower_upper (text : String) : lower (upper text) = lower text := by
  rw [lower, upper_toList, List.map_map]
  exact congrArg String.ofList (List.map_congr_left fun character _ => toLower_toUpper character)

theorem upper_lower (text : String) : upper (lower text) = upper text := by
  rw [upper, lower_toList, List.map_map]
  exact congrArg String.ofList (List.map_congr_left fun character _ => toUpper_toLower character)

/-- Capitals tell the same texts apart as small letters do. -/
theorem sameIgnoringCase_iff_upper {first second : String} :
    sameIgnoringCase first second = true ↔ upper first = upper second := by
  rw [sameIgnoringCase_iff]
  constructor
  · intro same
    rw [← upper_lower first, same, upper_lower]
  · intro same
    rw [← lower_upper first, same, lower_upper]

/-- A word is one of some capitals in any letter case. -/
theorem upper_mem_iff {capitals smalls : List String} (small : capitals.map lower = smalls)
    (capital : smalls.map upper = capitals) {word : String} :
    upper word ∈ capitals ↔ lower word ∈ smalls := by
  constructor
  · intro listed
    rw [← small, ← lower_upper]
    exact List.mem_map_of_mem listed
  · intro listed
    rw [← capital, ← upper_lower]
    exact List.mem_map_of_mem listed

/-- Neither case of a letter is an underscore. -/
theorem toUpper_bne_underscore (character : Char) :
    (character.toUpper != '_') = (character != '_') := by
  have code : '_'.toNat = 95 := rfl
  rw [Bool.eq_iff_iff, bne_iff_ne, bne_iff_ne, Ne, Ne, ← Char.toNat_inj, ← Char.toNat_inj,
    toNat_toUpper, code]
  split <;> omega

theorem lower_append (first second : String) :
    lower (first ++ second) = lower first ++ lower second := by
  rw [← String.toList_inj]
  simp

theorem lower_intercalate (texts : List String) :
    lower (" ".intercalate texts) = " ".intercalate (texts.map lower) := by
  induction texts with
  | nil => rfl
  | cons first texts induction =>
      cases texts with
      | nil => rfl
      | cons second texts =>
          rw [String.intercalate_cons_cons, lower_append, lower_append, induction]
          simp only [List.map_cons, String.intercalate_cons_cons]
          rfl

/-- Letters stay letters in the other case, and no letter is blank. -/
theorem isBlank_toLower (character : Char) : isBlank character.toLower = isBlank character := by
  by_cases capital : 65 ≤ character.toNat ∧ character.toNat ≤ 90
  · have small : character.toLower.isLower = true := by
      rw [isLower_iff]
      change 97 ≤ character.toLower.toNat ∧ character.toLower.toNat ≤ 122
      rw [toNat_toLower, if_pos capital]
      omega
    rw [isBlank_of_isAlpha (isAlpha_iff.mpr (.inl (isUpper_iff.mpr capital))),
      isBlank_of_isAlpha (isAlpha_iff.mpr (.inr small))]
  · have same : character.toLower = character := by
      rw [← Char.toNat_inj, toNat_toLower, if_neg capital]
    rw [same]

end Text

end OrmCode
