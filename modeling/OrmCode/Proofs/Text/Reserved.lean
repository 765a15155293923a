import OrmCode.Proofs.Text.Identifier

/-!
# Identifiers and reserved words

The identifier that stands for a name is none of the words that it avoids, and it stands for
itself.  JavaScript reserves further words in modules, which only they themselves become.
-/

namespace OrmCode

namespace Text

section Avoiding

variable {reserved : List String} {name : String}

/-- Only identifiers that are not reserved stand for themselves. -/
theorem identifierAvoiding_eq_self_iff :
    identifierAvoiding reserved name = name ↔ isIdentifier name = true ∧ name ∉ reserved := by
  constructor
  · intro same
    have bare : isIdentifier name = true := same ▸ isIdentifier_identifierAvoiding reserved name
    refine ⟨bare, fun member => ?_⟩
    rw [identifierAvoiding, plainIdentifier_of_isIdentifier bare,
      if_pos (List.contains_iff_mem.mpr member)] at same
    simpa using congrArg String.length same
  · rintro ⟨bare, free⟩
    rw [identifierAvoiding, plainIdentifier_of_isIdentifier bare]
    exact if_neg fun member => free (List.contains_iff_mem.mp member)

variable (apart : ∀ word ∈ reserved, word ++ "_" ∉ reserved)

include apart

/-- The underscore behind a reserved word makes no other reserved word of it. -/
theorem identifierAvoiding_not_mem : identifierAvoiding reserved name ∉ reserved := by
  rw [identifierAvoiding]
  split
  · next member => exact apart _ (List.contains_iff_mem.mp member)
  · next free => exact fun member => free (List.contains_iff_mem.mpr member)

theorem identifierAvoiding_idem :
    identifierAvoiding reserved (identifierAvoiding reserved name) =
      identifierAvoiding reserved name :=
  identifierAvoiding_eq_self_iff.mpr
    ⟨isIdentifier_identifierAvoiding reserved name, identifierAvoiding_not_mem apart⟩

end Avoiding

/-- The words that JavaScript reserves in modules beside those that identifiers avoid. -/
def javascriptModuleReserved : List String :=
  ["await", "implements", "interface", "package", "private", "protected", "public", "static"]

theorem javascriptReserved_apart :
    ∀ word ∈ javascriptReserved, word ++ "_" ∉ javascriptReserved := by
  decide +kernel

/-- A word of modules is the identifier of itself and of no other name. -/
theorem javascriptIdentifier_eq_iff_of_mem {name word : String}
    (member : word ∈ javascriptModuleReserved) :
    javascriptIdentifier name = word ↔ name = word := by
  have plain : ∀ word ∈ javascriptModuleReserved, isIdentifier word = true ∧
      '_' ∉ word.toList ∧ word ∉ javascriptReserved := by
    decide +kernel
  obtain ⟨bare, unmarked, free⟩ := plain word member
  exact identifierAvoiding_eq_iff bare unmarked free

/-- The identifier that stands for a table in JavaScript is a plain one and none of the words
that it avoids.  It stands for itself, and a name is kept exactly if it is such an identifier.
It is a word that only modules reserve exactly if the name is this word. -/
theorem javascriptIdentifier_determined (name : String) :
    isIdentifier (javascriptIdentifier name) = true ∧
    javascriptIdentifier name ∉ javascriptReserved ∧
    (javascriptIdentifier name ∈ javascriptModuleReserved ↔ name ∈ javascriptModuleReserved) ∧
    javascriptIdentifier (javascriptIdentifier name) = javascriptIdentifier name ∧
    (javascriptIdentifier name = name ↔
      isIdentifier name = true ∧ name ∉ javascriptReserved) := by
  refine ⟨isIdentifier_identifierAvoiding _ name, identifierAvoiding_not_mem
    javascriptReserved_apart, ⟨fun member => ?_, fun member => ?_⟩,
    identifierAvoiding_idem javascriptReserved_apart, identifierAvoiding_eq_self_iff⟩
  · have same : name = javascriptIdentifier name :=
      (javascriptIdentifier_eq_iff_of_mem member).mp rfl
    rw [same]
    exact member
  · rw [(javascriptIdentifier_eq_iff_of_mem member).mpr rfl]
    exact member

/-- A table called `await` keeps its name. -/
example : javascriptIdentifier "await" = "await" := by decide

end Text

end OrmCode
