/-!
# Blank characters and words

Text is blank, trimmed and cut into words by the Unicode property White_Space,
the same for every dialect and every target.
-/

namespace OrmCode

namespace Text

/-- The twenty-five characters with the Unicode property White_Space. -/
def isBlank (character : Char) : Bool :=
  let code := character.toNat
  (0x9 ≤ code && code ≤ 0xd) || code == 0x20 || code == 0x85 || code == 0xa0 ||
    code == 0x1680 || (0x2000 ≤ code && code ≤ 0x200a) || code == 0x2028 ||
    code == 0x2029 || code == 0x202f || code == 0x205f || code == 0x3000

/-- A text is blank when it holds nothing but blank characters. -/
def allBlank (text : String) : Bool :=
  text.toList.all isBlank

/-- Characters without the blanks before the first and after the last other one. -/
def trimmedCharacters (characters : List Char) : List Char :=
  ((characters.dropWhile isBlank).reverse.dropWhile isBlank).reverse

/-- The text without its leading and trailing blanks. -/
def trim (text : String) : String :=
  String.ofList (trimmedCharacters text.toList)

/-- The pieces between separators, one more than there are separators. -/
def splitCharacters (separates : Char → Bool) : List Char → List (List Char)
  | [] => [[]]
  | character :: rest =>
    if separates character then
      [] :: splitCharacters separates rest
    else
      match splitCharacters separates rest with
      | [] => [[character]]
      | first :: others => (character :: first) :: others

/-- The pieces of a text between the characters that separate them. -/
def split (separates : Char → Bool) (text : String) : List String :=
  (splitCharacters separates text.toList).map String.ofList

/-- The maximal runs of characters that are not blank. -/
def words (text : String) : List String :=
  ((splitCharacters isBlank text.toList).filter fun piece => !piece.isEmpty).map String.ofList

theorem splitCharacters_ne_nil (separates : Char → Bool) (characters : List Char) :
    splitCharacters separates characters ≠ [] := by
  induction characters with
  | nil => simp [splitCharacters]
  | cons character rest induction =>
      simp only [splitCharacters]
      split
      · simp
      · split <;> simp

/-- A list of characters without a separator is one piece. -/
theorem splitCharacters_of_none {separates : Char → Bool} {characters : List Char}
    (none_separates : ∀ character ∈ characters, separates character = false) :
    splitCharacters separates characters = [characters] := by
  induction characters with
  | nil => rfl
  | cons character rest induction =>
      have head_kept := none_separates character (by simp)
      have rest_kept := induction fun other member =>
        none_separates other (List.mem_cons_of_mem _ member)
      simp [splitCharacters, head_kept, rest_kept]

end Text

end OrmCode
