import OrmCode.Text.Quoted

/-!
# Identifiers of the generated languages

A name becomes an identifier of JavaScript or Python by writing an underscore
for every character outside the ASCII letters, digits and underscore, one more
underscore before a leading digit, and one after a reserved word.
-/

namespace OrmCode

namespace Text

/-- A letter from A to Z in either case, or an underscore. -/
def startsIdentifier (character : Char) : Bool :=
  character.isAlpha || character == '_'

/-- A character that may follow the first one of an identifier. -/
def continuesIdentifier (character : Char) : Bool :=
  character.isAlphanum || character == '_'

/-- A plain ASCII identifier. -/
def isIdentifierCharacters : List Char → Bool
  | [] => false
  | first :: rest => startsIdentifier first && rest.all continuesIdentifier

/-- A name that is a plain ASCII identifier. -/
def isIdentifier (name : String) : Bool :=
  isIdentifierCharacters name.toList

/-- The character itself inside an identifier, or an underscore in its place. -/
def identifierCharacter (character : Char) : Char :=
  if continuesIdentifier character then character else '_'

/-- The identifier made of a name before reserved words are looked at. -/
def plainIdentifierCharacters (characters : List Char) : List Char :=
  match characters.map identifierCharacter with
  | [] => ['_']
  | first :: rest => if first.isDigit then '_' :: first :: rest else first :: rest

/-- The identifier made of a name before reserved words are looked at. -/
def plainIdentifier (name : String) : String :=
  String.ofList (plainIdentifierCharacters name.toList)

/-- The identifier made of a name in a language with the given reserved words. -/
def identifierAvoiding (reserved : List String) (name : String) : String :=
  let identifier := plainIdentifier name
  if reserved.contains identifier then identifier ++ "_" else identifier

/-- The reserved words of JavaScript that identifiers avoid. -/
def javascriptReserved : List String :=
  ["break", "case", "catch", "class", "const", "continue", "debugger", "default", "delete",
    "do", "else", "enum", "export", "extends", "false", "finally", "for", "function", "if",
    "import", "in", "instanceof", "let", "new", "null", "return", "super", "switch", "this",
    "throw", "true", "try", "typeof", "var", "void", "while", "with", "yield"]

def pythonReserved : List String :=
  ["False", "None", "True", "and", "as", "assert", "async", "await", "break", "class",
    "continue", "def", "del", "elif", "else", "except", "finally", "for", "from", "global",
    "if", "import", "in", "is", "lambda", "nonlocal", "not", "or", "pass", "raise", "return",
    "try", "while", "with", "yield"]

/-- The JavaScript binding that stands for a table. -/
def javascriptIdentifier (name : String) : String :=
  identifierAvoiding javascriptReserved name

/-- The Python class or attribute that stands for a table or a column. -/
def pythonIdentifier (name : String) : String :=
  identifierAvoiding pythonReserved name

/-- The key of a JavaScript object literal: bare where the name is an
identifier, quoted elsewhere. -/
def javascriptKey (name : String) : String :=
  if isIdentifier name then name else quoted name

theorem continuesIdentifier_of_starts {character : Char}
    (starts : startsIdentifier character = true) : continuesIdentifier character = true := by
  simp only [startsIdentifier, continuesIdentifier, Char.isAlphanum, Bool.or_eq_true] at starts ⊢
  rcases starts with alphabetic | underscore
  · exact Or.inl (Or.inl alphabetic)
  · exact Or.inr underscore

@[simp] theorem continuesIdentifier_identifierCharacter (character : Char) :
    continuesIdentifier (identifierCharacter character) = true := by
  simp only [identifierCharacter]
  split
  · assumption
  · decide

/-- A character that belongs into identifiers is kept. -/
theorem identifierCharacter_of_continues {character : Char}
    (continues : continuesIdentifier character = true) :
    identifierCharacter character = character := by
  simp [identifierCharacter, continues]

end Text

end OrmCode
