/-!
# Single-quoted literals

Generated code of both targets holds strings between single quotes.  A
backslash, a quote, a line feed, a carriage return and a tab are written as an
escape of two characters; every other character stands for itself.
-/

namespace OrmCode

namespace Text

/-- The written form of one character inside single quotes. -/
def quotedCharacter (character : Char) : List Char :=
  if character = '\x5c' then ['\x5c', '\x5c']
  else if character = '\x27' then ['\x5c', '\x27']
  else if character = '\n' then ['\x5c', 'n']
  else if character = '\x0d' then ['\x5c', 'r']
  else if character = '\t' then ['\x5c', 't']
  else [character]

/-- The written form of a string with its quotes. -/
def quotedCharacters (characters : List Char) : List Char :=
  '\x27' :: (characters.flatMap quotedCharacter ++ ['\x27'])

/-- The single-quoted literal of a string. -/
def quoted (text : String) : String :=
  String.ofList (quotedCharacters text.toList)

@[simp] theorem quoted_toList (text : String) :
    (quoted text).toList = quotedCharacters text.toList := by
  simp [quoted]

end Text

end OrmCode
