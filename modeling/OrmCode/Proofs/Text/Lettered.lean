import Mathlib.Data.List.Basic
import OrmCode.Proofs.Text.Identifier
import OrmCode.Sql.Token

/-!
# Names of an initial and small letters

A name that starts with a small letter and an underscore and goes on with small
letters is an identifier of JavaScript and of Python and no keyword of SQL.
-/

namespace OrmCode

namespace Text

/-- Whether a name is the initial, an underscore and at least one small letter. -/
def isLettered (initial : Char) (name : String) : Bool :=
  match name.toList with
  | first :: '_' :: letter :: letters => first == initial && (letter :: letters).all Char.isLower
  | _ => false

section Lettered

variable {initial : Char} {name : String} (lettered : isLettered initial name = true)

include lettered

theorem exists_letters : ∃ letter letters,
    name.toList = initial :: '_' :: letter :: letters ∧
      ∀ character ∈ letter :: letters, character.isLower = true := by
  unfold isLettered at lettered
  split at lettered
  · next first letter letters found =>
      obtain ⟨same, small⟩ := Bool.and_eq_true_iff.mp lettered
      obtain rfl := beq_iff_eq.mp same
      exact ⟨letter, letters, found, List.all_eq_true.mp small⟩
  · cases lettered

theorem underscore_mem_toList : '_' ∈ name.toList := by
  obtain ⟨letter, letters, found, -⟩ := exists_letters lettered
  simp [found]

theorem isLower_or_underscore (small : initial.isLower = true) :
    ∀ character ∈ name.toList, character.isLower = true ∨ character = '_' := by
  obtain ⟨letter, letters, found, rest⟩ := exists_letters lettered
  rw [found]
  exact List.forall_mem_cons.mpr ⟨.inl small, List.forall_mem_cons.mpr ⟨.inr rfl,
    fun character member => .inl (rest character member)⟩⟩

end Lettered

theorem isAlpha_of_isLower {character : Char} (small : character.isLower = true) :
    character.isAlpha = true := by
  rw [isAlpha_iff]
  exact .inr small

theorem toLower_of_isLower {character : Char} (small : character.isLower = true) :
    character.toLower = character := by
  have notCapital : ¬('A'.val ≤ character.val ∧ character.val ≤ 'Z'.val) := by
    rw [isLower_iff] at small
    rw [UInt32.le_iff_toNat_le, UInt32.le_iff_toNat_le]
    have last : 'Z'.val.toNat = 90 := rfl
    omega
  exact dif_neg notCapital

/-- Whether every character of a text stands for itself between quotes. -/
def isUnescaped (text : String) : Bool :=
  text.toList.all fun character => !(['\x5c', '\x27', '\n', '\x0d', '\t'].contains character)

theorem apart_of_isUnescaped {text : String} (unescaped : isUnescaped text = true) :
    ∀ character ∈ text.toList, character ∉ ['\x5c', '\x27', '\n', '\x0d', '\t'] := by
  intro character member
  simpa using List.all_eq_true.mp unescaped character member

theorem quoted_of_isUnescaped {text : String} (unescaped : isUnescaped text = true) :
    quoted text = "'" ++ text ++ "'" := by
  have kept : ∀ character ∈ text.toList, quotedCharacter character = [character] := by
    intro character member
    have apart := apart_of_isUnescaped unescaped character member
    simp only [List.mem_cons, List.not_mem_nil, or_false, not_or] at apart
    obtain ⟨backslash, quote, lineFeed, returned, tab⟩ := apart
    simp only [quotedCharacter, backslash, quote, lineFeed, returned, tab, if_false]
  rw [← String.toList_inj, quoted_toList, quotedCharacters, List.flatMap_congr kept,
    List.flatMap_singleton', String.toList_append, String.toList_append]
  rfl

section Identifiers

variable {initial : Char} {name : String} (lettered : isLettered initial name = true)
  (small : initial.isLower = true)

include lettered small

theorem lower_of_isLettered : lower name = name := by
  have each : ∀ character ∈ name.toList, character.toLower = character := by
    intro character member
    rcases isLower_or_underscore lettered small character member with letter | rfl
    · exact toLower_of_isLower letter
    · rfl
  rw [lower, List.map_congr_left each, List.map_id', String.ofList_toList]

omit lettered in
theorem map_lower_of_isLettered {names : List String}
    (lettered : ∀ name ∈ names, isLettered initial name = true) : names.map lower = names :=
  (List.map_congr_left fun name member => lower_of_isLettered (lettered name member) small).trans
    (List.map_id' names)

theorem continues_of_isLettered :
    ∀ character ∈ name.toList, continuesIdentifier character = true := by
  intro character member
  rcases isLower_or_underscore lettered small character member with letter | rfl
  · rw [continuesIdentifier, Char.isAlphanum, isAlpha_of_isLower letter]
    rfl
  · decide

theorem isIdentifier_of_isLettered : isIdentifier name = true := by
  have continues := continues_of_isLettered lettered small
  obtain ⟨letter, letters, found, -⟩ := exists_letters lettered
  rw [found] at continues
  have starts : startsIdentifier initial = true := by
    rw [startsIdentifier, isAlpha_of_isLower small, Bool.true_or]
  rw [isIdentifier, found, isIdentifierCharacters, starts, Bool.true_and, List.all_eq_true]
  exact fun character member => continues character (List.mem_cons_of_mem _ member)

/-- No reserved word holds an underscore, so the name is kept as it is. -/
theorem identifierAvoiding_of_isLettered {reserved : List String}
    (plain : ∀ word ∈ reserved, '_' ∉ word.toList) : identifierAvoiding reserved name = name := by
  have free : reserved.contains name = false := by
    rw [← Bool.not_eq_true, List.contains_iff_mem]
    exact fun member => plain name member (underscore_mem_toList lettered)
  rw [identifierAvoiding,
    plainIdentifier_of_isIdentifier (isIdentifier_of_isLettered lettered small)]
  simp only [free, Bool.false_eq_true, if_false]

theorem javascriptIdentifier_of_isLettered : javascriptIdentifier name = name :=
  identifierAvoiding_of_isLettered lettered small (by decide)

theorem pythonIdentifier_of_isLettered : pythonIdentifier name = name :=
  identifierAvoiding_of_isLettered lettered small (by decide)

theorem javascriptKey_of_isLettered : javascriptKey name = name := by
  rw [javascriptKey, isIdentifier_of_isLettered lettered small, if_pos rfl]

theorem quoted_of_isLettered : quoted name = "'" ++ name ++ "'" := by
  refine quoted_of_isUnescaped (List.all_eq_true.mpr fun character member => ?_)
  have continues := continues_of_isLettered lettered small character member
  rw [Bool.not_eq_true', ← Bool.not_eq_true, List.contains_iff_mem]
  have refused : ['\x5c', '\x27', '\n', '\x0d', '\t'].any continuesIdentifier = false := by
    decide
  exact fun special => List.any_eq_false.mp refused character special continues

end Identifiers

end Text

/-- A word with an underscore spells no keyword without one. -/
theorem Sql.Token.isKeyword_of_underscore {keyword name : String} (quote? : Option Char)
    (plain : '_' ∉ keyword.toList) (underscore : '_' ∈ name.toList) :
    (Token.word name quote?).isKeyword keyword = false := by
  cases quote? with
  | some quote => rfl
  | none =>
      have kept : '_' ∈ (Text.capitals name).toList := by
        rw [Text.capitals, String.toList_ofList]
        exact List.mem_flatMap.mpr ⟨'_', underscore, by decide⟩
      refine beq_eq_false_iff_ne.mpr ?_
      rintro rfl
      exact plain kept

end OrmCode
