/-!
# Letter case

Names, types and operators are compared without regard to the case of the
letters A to Z; other letters are compared as they are.  Only keywords know
further capitals, those that are spelled with A to Z.
-/

namespace OrmCode

namespace Text

/-- The text with A to Z replaced by a to z. -/
def lower (text : String) : String :=
  String.ofList (text.toList.map Char.toLower)

/-- The text with a to z replaced by A to Z. -/
def upper (text : String) : String :=
  String.ofList (text.toList.map Char.toUpper)

/-- The small form of a character for names of dialects, where the Kelvin sign counts as a `k`. -/
def smallForm (character : Char) : Char :=
  if character = '\u212a' then 'k' else character.toLower

/-- Two texts that differ at most in the case of the letters A to Z. -/
def sameIgnoringCase (first second : String) : Bool :=
  lower first == lower second

/-- The letters outside a to z whose Unicode capital is spelled with A to Z. -/
def foreignCapital : Char → Option (List Char)
  | 'ı' => some ['I']
  | 'ſ' => some ['S']
  | 'ß' => some ['S', 'S']
  | 'ﬀ' => some ['F', 'F']
  | 'ﬁ' => some ['F', 'I']
  | 'ﬂ' => some ['F', 'L']
  | 'ﬃ' => some ['F', 'F', 'I']
  | 'ﬄ' => some ['F', 'F', 'L']
  | 'ﬅ' => some ['S', 'T']
  | 'ﬆ' => some ['S', 'T']
  | _ => none

/-- The capitals of one character, as keywords are compared by. -/
def capital (character : Char) : List Char :=
  (foreignCapital character).getD [character.toUpper]

/-- The capitals of a word, as keywords are compared by. -/
def capitals (word : String) : String :=
  String.ofList (word.toList.flatMap capital)

@[simp] theorem lower_toList (text : String) :
    (lower text).toList = text.toList.map Char.toLower := by
  simp [lower]

@[simp] theorem upper_toList (text : String) :
    (upper text).toList = text.toList.map Char.toUpper := by
  simp [upper]

theorem sameIgnoringCase_iff {first second : String} :
    sameIgnoringCase first second = true ↔ lower first = lower second := by
  simp [sameIgnoringCase]

@[simp] theorem sameIgnoringCase_self (text : String) :
    sameIgnoringCase text text = true := by
  simp [sameIgnoringCase]

end Text

end OrmCode
