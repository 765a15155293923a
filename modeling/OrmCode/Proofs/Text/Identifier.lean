import OrmCode.Text.Identifier

/-!
# Characters of identifiers

The identifier that stands for a name consists of the characters of identifiers,
whatever the name holds.
-/

namespace OrmCode

namespace Text

theorem continues_plainIdentifier (name : String) :
    ∀ character ∈ (plainIdentifier name).toList, continuesIdentifier character = true := by
  have mapped : ∀ character ∈ name.toList.map identifierCharacter,
      continuesIdentifier character = true := by
    intro character member
    obtain ⟨original, -, rfl⟩ := List.mem_map.mp member
    exact continuesIdentifier_identifierCharacter original
  rw [plainIdentifier, String.toList_ofList, plainIdentifierCharacters]
  intro character member
  split at member
  · obtain rfl := List.mem_singleton.mp member
    decide
  · next first rest characters =>
      rw [characters] at mapped
      split at member
      · rcases List.mem_cons.mp member with rfl | kept
        · decide
        · exact mapped character kept
      · exact mapped character member

theorem continues_identifierAvoiding (reserved : List String) (name : String) :
    ∀ character ∈ (identifierAvoiding reserved name).toList,
      continuesIdentifier character = true := by
  intro character member
  rw [identifierAvoiding] at member
  split at member
  · rw [String.toList_append] at member
    rcases List.mem_append.mp member with kept | added
    · exact continues_plainIdentifier name character kept
    · obtain rfl := List.mem_singleton.mp added
      decide
  · exact continues_plainIdentifier name character member

theorem continues_of_isIdentifier {name : String} (bare : isIdentifier name = true) :
    ∀ character ∈ name.toList, continuesIdentifier character = true := by
  rw [isIdentifier] at bare
  cases characters : name.toList with
  | nil => simp
  | cons first rest =>
      rw [characters, isIdentifierCharacters, Bool.and_eq_true, List.all_eq_true] at bare
      exact List.forall_mem_cons.mpr ⟨continuesIdentifier_of_starts bare.1, bare.2⟩

theorem startsIdentifier_of_continues {character : Char}
    (continues : continuesIdentifier character = true) (noDigit : character.isDigit = false) :
    startsIdentifier character = true := by
  simpa [continuesIdentifier, startsIdentifier, Char.isAlphanum, noDigit] using continues

theorem isIdentifier_plainIdentifier (name : String) :
    isIdentifier (plainIdentifier name) = true := by
  have continues := continues_plainIdentifier name
  rw [plainIdentifier, String.toList_ofList] at continues
  rw [isIdentifier, plainIdentifier, String.toList_ofList]
  unfold plainIdentifierCharacters at continues ⊢
  split
  · decide
  · next first rest characters =>
      rw [characters] at continues
      dsimp only at continues ⊢
      split
      · next digit =>
          rw [if_pos digit] at continues
          rw [isIdentifierCharacters, Bool.and_eq_true, List.all_eq_true]
          exact ⟨by decide, fun character member =>
            continues character (List.mem_cons_of_mem _ member)⟩
      · next noDigit =>
          rw [if_neg noDigit] at continues
          obtain ⟨here, later⟩ := List.forall_mem_cons.mp continues
          rw [isIdentifierCharacters, startsIdentifier_of_continues here (by simpa using noDigit),
            Bool.true_and, List.all_eq_true]
          exact later

theorem isIdentifier_identifierAvoiding (reserved : List String) (name : String) :
    isIdentifier (identifierAvoiding reserved name) = true := by
  have plain := isIdentifier_plainIdentifier name
  rw [identifierAvoiding]
  split
  · rw [isIdentifier] at plain ⊢
    rw [String.toList_append]
    cases characters : (plainIdentifier name).toList with
    | nil =>
        rw [characters] at plain
        cases plain
    | cons first rest =>
        rw [characters, isIdentifierCharacters, Bool.and_eq_true] at plain
        rw [List.cons_append, isIdentifierCharacters, List.all_append, plain.1, plain.2]
        decide
  · exact plain

theorem identifierAvoiding_ne_empty (reserved : List String) (name : String) :
    identifierAvoiding reserved name ≠ "" := by
  have something : plainIdentifier name ≠ "" := by
    rw [plainIdentifier, plainIdentifierCharacters]
    split
    · decide
    · split <;> simp
  rw [identifierAvoiding]
  split <;> simp [something]

theorem isUpper_iff {character : Char} :
    character.isUpper = true ↔ 65 ≤ character.val.toNat ∧ character.val.toNat ≤ 90 := by
  change decide ('A'.val ≤ character.val ∧ character.val ≤ 'Z'.val) = true ↔ _
  rw [decide_eq_true_eq, UInt32.le_iff_toNat_le, UInt32.le_iff_toNat_le]
  rfl

theorem isLower_iff {character : Char} :
    character.isLower = true ↔ 97 ≤ character.val.toNat ∧ character.val.toNat ≤ 122 := by
  change (decide ('a'.val ≤ character.val) && decide (character.val ≤ 'z'.val)) = true ↔ _
  rw [Bool.and_eq_true, decide_eq_true_eq, decide_eq_true_eq, UInt32.le_iff_toNat_le,
    UInt32.le_iff_toNat_le]
  rfl

theorem isDigit_iff {character : Char} :
    character.isDigit = true ↔ 48 ≤ character.val.toNat ∧ character.val.toNat ≤ 57 := by
  change (decide ('0'.val ≤ character.val) && decide (character.val ≤ '9'.val)) = true ↔ _
  rw [Bool.and_eq_true, decide_eq_true_eq, decide_eq_true_eq, UInt32.le_iff_toNat_le,
    UInt32.le_iff_toNat_le]
  rfl

theorem isAlpha_iff {character : Char} :
    character.isAlpha = true ↔ character.isUpper = true ∨ character.isLower = true :=
  Bool.or_eq_true_iff

theorem isDigit_of_isAlpha {character : Char} (letter : character.isAlpha = true) :
    character.isDigit = false := by
  rw [isAlpha_iff, isUpper_iff, isLower_iff] at letter
  rw [← Bool.not_eq_true, isDigit_iff]
  omega

theorem isDigit_of_startsIdentifier {character : Char}
    (starts : startsIdentifier character = true) : character.isDigit = false := by
  rw [startsIdentifier, Bool.or_eq_true, beq_iff_eq] at starts
  rcases starts with alphabetic | rfl
  · exact isDigit_of_isAlpha alphabetic
  · decide

/-- An identifier stands for itself. -/
theorem plainIdentifier_of_isIdentifier {name : String} (bare : isIdentifier name = true) :
    plainIdentifier name = name := by
  have kept : name.toList.map identifierCharacter = name.toList :=
    (List.map_congr_left fun character member => identifierCharacter_of_continues
      (continues_of_isIdentifier bare character member)).trans (List.map_id' _)
  rw [isIdentifier] at bare
  rw [plainIdentifier, plainIdentifierCharacters, kept]
  cases characters : name.toList with
  | nil =>
      rw [characters] at bare
      cases bare
  | cons first rest =>
      rw [characters, isIdentifierCharacters, Bool.and_eq_true] at bare
      simp only [isDigit_of_startsIdentifier bare.1, Bool.false_eq_true, if_false]
      rw [← characters, String.ofList_toList]

theorem identifierCharacter_eq_self {character : Char}
    (kept : identifierCharacter character ≠ '_') : identifierCharacter character = character := by
  rw [identifierCharacter] at kept ⊢
  split
  · rfl
  · next replaced => exact absurd (if_neg replaced) kept

/-- Every change to a name leaves an underscore. -/
theorem eq_of_plainIdentifier {name : String} (unmarked : '_' ∉ (plainIdentifier name).toList) :
    plainIdentifier name = name := by
  have kept : ∀ characters : List Char, '_' ∉ characters.map identifierCharacter →
      characters.map identifierCharacter = characters := by
    intro characters unmarked
    refine (List.map_congr_left fun character member => ?_).trans (List.map_id' _)
    refine identifierCharacter_eq_self fun replaced => unmarked ?_
    exact replaced ▸ List.mem_map_of_mem member
  have same := kept name.toList
  rw [plainIdentifier, String.toList_ofList] at unmarked
  rw [plainIdentifier]
  unfold plainIdentifierCharacters at unmarked ⊢
  split
  · next nothing =>
      rw [nothing] at unmarked
      exact absurd List.mem_cons_self unmarked
  · next first rest characters =>
      rw [characters] at unmarked same
      dsimp only at unmarked ⊢
      split
      · next digit =>
          rw [if_pos digit] at unmarked
          exact absurd List.mem_cons_self unmarked
      · next noDigit =>
          rw [if_neg noDigit] at unmarked
          rw [same unmarked, String.ofList_toList]

/-- The names that become a word without an underscore are that word. -/
theorem identifierAvoiding_eq_iff {reserved : List String} {name word : String}
    (bare : isIdentifier word = true) (unmarked : '_' ∉ word.toList) (free : word ∉ reserved) :
    identifierAvoiding reserved name = word ↔ name = word := by
  have notReserved : ¬reserved.contains word = true := fun member =>
    free (List.contains_iff_mem.mp member)
  constructor
  · intro same
    rw [identifierAvoiding] at same
    split at same
    · rw [← same, String.toList_append] at unmarked
      exact absurd (List.mem_append_right _ List.mem_cons_self) unmarked
    · rw [← same] at unmarked
      rw [← same, eq_of_plainIdentifier unmarked]
  · rintro rfl
    rw [identifierAvoiding, plainIdentifier_of_isIdentifier bare]
    exact if_neg notReserved

end Text

end OrmCode
