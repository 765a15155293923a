import Mathlib.Data.List.Forall2
import OrmCode.Proofs.Text.Spaced
import OrmCode.Statement.Comparator

/-!
# Operators and their tokens

A known operator is found by its own spelling in capitals, and two of them by another one.
What is no known operator keeps its token with single blanks between the words, and this
token stands for it again.  So every token has one operator, whose spelling is a token of the
same operator.
-/

namespace OrmCode

namespace Comparator

theorem normalized_normalized (token : String) :
    normalized (normalized token) = normalized token := by
  rw [normalized, normalized, Text.words_intercalate_words]

/-- An operator is known by its own spelling, or by one of two others. -/
theorem spelled_of_ofCapitals? {capitals : String} {comparator : Comparator}
    (known : ofCapitals? capitals = some comparator) :
    comparator.isOther = false ∧ (capitals = comparator.sql ∨
      capitals = "==" ∧ comparator = equal ∨ capitals = "<>" ∧ comparator = different) := by
  unfold ofCapitals? at known
  split at known <;> cases known <;> simp [isOther, sql]

theorem ofSql_eq_other_iff {token unknown : String} :
    ofSql token = other unknown ↔
      ofCapitals? (Text.upper (normalized token)) = none ∧ normalized token = unknown := by
  rw [ofSql]
  cases found : ofCapitals? (Text.upper (normalized token)) with
  | none => simp
  | some comparator =>
      have known := (spelled_of_ofCapitals? found).1
      refine iff_of_false ?_ nofun
      rintro rfl
      cases known

/-- The token that an unknown operator keeps stands for this operator. -/
theorem ofSql_of_eq_other {token unknown : String} (written : ofSql token = other unknown) :
    ofSql unknown = other unknown := by
  obtain ⟨absent, rfl⟩ := ofSql_eq_other_iff.mp written
  exact ofSql_eq_other_iff.mpr
    ⟨(normalized_normalized token).symm ▸ absent, normalized_normalized token⟩

/-- A token that is not spelled as a known operator with one spelling is another one. -/
theorem ofSql_ne_of_spelled_ne {token : String} {comparator : Comparator}
    (known : comparator.isOther = false) (single : comparator ≠ equal ∧ comparator ≠ different)
    (apart : Text.upper (normalized token) ≠ comparator.sql) : ofSql token ≠ comparator := by
  rw [ofSql]
  cases found : ofCapitals? (Text.upper (normalized token)) with
  | none =>
      rintro rfl
      cases known
  | some spelled =>
      rintro rfl
      rcases (spelled_of_ofCapitals? found).2 with same | ⟨-, same⟩ | ⟨-, same⟩
      · exact apart same
      · exact single.1 same
      · exact single.2 same

/-- The spellings of the known operators in capitals. -/
def spellings : List String :=
  ["=", "==", "!=", "<>", ">", ">=", "<", "<=", "LIKE", "NOT LIKE", "IN", "NOT IN", "IS", "IS NOT"]

theorem ofCapitals?_eq_none_iff {capitals : String} :
    ofCapitals? capitals = none ↔ capitals ∉ spellings := by
  unfold ofCapitals?
  split <;> simp_all [spellings]

/-- The spellings are in capitals already. -/
theorem upper_of_mem_spellings : ∀ spelling ∈ spellings, Text.upper spelling = spelling := by
  decide

/-- An unknown operator keeps the words of its token with single blanks between them, which are
no spelling of a known operator, whatever the case of the letters. -/
theorem ofSql_eq_other_iff_spellings {token unknown : String} :
    ofSql token = other unknown ↔
      normalized token = unknown ∧
        ∀ spelling ∈ spellings, Text.sameIgnoringCase unknown spelling = false := by
  rw [ofSql_eq_other_iff, and_comm]
  refine and_congr_right fun kept => ?_
  rw [kept, ofCapitals?_eq_none_iff]
  constructor
  · intro absent spelling listed
    rw [← Bool.not_eq_true, Text.sameIgnoringCase_iff_upper, upper_of_mem_spellings _ listed]
    rintro rfl
    exact absent listed
  · intro apart listed
    have same : Text.sameIgnoringCase unknown (Text.upper unknown) = true := by
      rw [Text.sameIgnoringCase_iff, Text.lower_upper]
    rw [apart _ listed] at same
    cases same

/-- The spelling of a known operator is a token of this operator. -/
theorem ofSql_sql_of_known {comparator : Comparator} (known : comparator.isOther = false) :
    ofSql comparator.sql = comparator := by
  cases comparator with
  | other token => cases known
  | _ => decide

theorem ofSql_sql_ofSql (token : String) : ofSql (ofSql token).sql = ofSql token := by
  cases written : ofSql token with
  | other unknown => exact ofSql_of_eq_other written
  | _ => exact ofSql_sql_of_known rfl

/-- Tokens with the same words have the same operator. -/
theorem ofSql_of_words_eq {token second : String} (same : Text.words second = Text.words token) :
    ofSql second = ofSql token := by
  rw [ofSql, ofSql, normalized, normalized, same]

theorem lower_normalized_of_forall₂ {token second : String}
    (same : List.Forall₂ (fun word other => Text.sameIgnoringCase word other = true)
      (Text.words token) (Text.words second)) :
    Text.lower (normalized second) = Text.lower (normalized token) := by
  have small : (Text.words token).map Text.lower = (Text.words second).map Text.lower := by
    rw [← List.forall₂_eq_eq_eq, List.forall₂_map_left_iff, List.forall₂_map_right_iff]
    exact same.imp fun word other => Text.sameIgnoringCase_iff.mp
  rw [normalized, normalized, Text.lower_intercalate, Text.lower_intercalate, small]

/-- The token of a known operator may change the case of its letters. -/
theorem ofSql_of_forall₂ {token second : String} (known : (ofSql token).isOther = false)
    (same : List.Forall₂ (fun word other => Text.sameIgnoringCase word other = true)
      (Text.words token) (Text.words second)) : ofSql second = ofSql token := by
  have capitals : Text.upper (normalized second) = Text.upper (normalized token) :=
    Text.sameIgnoringCase_iff_upper.mp
      (Text.sameIgnoringCase_iff.mpr (lower_normalized_of_forall₂ same))
  rw [ofSql] at known
  -- Only unknown operators keep more of a token than its capitals.
  rw [ofSql, ofSql, capitals]
  cases found : ofCapitals? (Text.upper (normalized token)) with
  | none =>
      rw [found] at known
      cases known
  | some comparator => rfl

/-- The operator of a token has one spelling, a token of the same operator.  Other blanks around
the words of a token and between them make no other operator of it, and neither does another
case of the letters of a known operator.  What is no known operator keeps the words of the token
with single blanks between them, and these are no spelling of a known operator, whatever the
case of the letters. -/
theorem ofSql_canonical (token : String) :
    ofSql (ofSql token).sql = ofSql token ∧
    (∀ words second, Text.Spaced words token → Text.Spaced words second →
      ofSql second = ofSql token) ∧
    ((ofSql token).isOther = false →
      ∀ words others second, Text.Spaced words token → Text.Spaced others second →
        List.Forall₂ (fun word other => Text.sameIgnoringCase word other = true) words others →
        ofSql second = ofSql token) ∧
    ∀ unknown, ofSql token = other unknown ↔
      (∃ words, Text.Spaced words token ∧ " ".intercalate words = unknown) ∧
        ∀ spelling ∈ spellings, Text.sameIgnoringCase unknown spelling = false := by
  refine ⟨ofSql_sql_ofSql token, ?_, ?_, fun unknown => ?_⟩
  · rintro words second spaced spacedToo
    exact ofSql_of_words_eq (spacedToo.words_eq.trans spaced.words_eq.symm)
  · rintro known words others second spaced spacedToo same
    rw [← spaced.words_eq, ← spacedToo.words_eq] at same
    exact ofSql_of_forall₂ known same
  · simp only [Text.spaced_iff, exists_eq_left']
    exact ofSql_eq_other_iff_spellings

/-- NOT LIKE between blanks of several kinds is the operator that it is in capitals and with one
blank; an unknown operator keeps its small letters. -/
theorem ofSql_respelledTokens :
    Text.Spaced ["nOt", "LIKE"] "\tnOt\u3000 LIKE\n" ∧ ofSql "\tnOt\u3000 LIKE\n" = notLike ∧
    ofSql "nOt LIKE" = ofSql "\tnOt\u3000 LIKE\n" ∧
    ofSql "NOT  LIKE" = ofSql "\tnOt\u3000 LIKE\n" ∧
    ofSql " ~*\n x" = other "~* x" ∧
    ∀ spelling ∈ spellings, Text.sameIgnoringCase "~* x" spelling = false := by
  have spaced : Text.Spaced ["nOt", "LIKE"] "\tnOt\u3000 LIKE\n" :=
    Text.spaced_iff.mpr (by decide)
  have known : ofSql "\tnOt\u3000 LIKE\n" = notLike := by decide
  have unknown : ofSql " ~*\n x" = other "~* x" := by decide
  obtain ⟨-, reblanked, recased, -⟩ := ofSql_canonical "\tnOt\u3000 LIKE\n"
  obtain ⟨-, -, -, kept⟩ := ofSql_canonical " ~*\n x"
  refine ⟨spaced, known, reblanked _ _ spaced (Text.spaced_iff.mpr (by decide)), ?_, unknown,
    ((kept _).mp unknown).2⟩
  have capitals : List.Forall₂ (fun word other => Text.sameIgnoringCase word other = true)
      ["nOt", "LIKE"] ["NOT", "LIKE"] := .cons (by decide) (.cons (by decide) .nil)
  exact recased (by rw [known]; rfl) _ _ _ spaced (Text.spaced_iff.mpr (by decide)) capitals

end Comparator

end OrmCode
