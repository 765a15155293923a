import OrmCode.Sql.Keyword

/-!
# Tokens of SQL

A text of SQL is a list of tokens, between which blanks and comments count for
nothing.  A word keeps its letters and its quote; what it means depends on
where it stands.
-/

namespace OrmCode

namespace Sql

inductive StringForm
  | single
  | double
  | tripleSingle
  | tripleDouble
  | national
  | hexadecimal
  | escaped
  | unicode
  | bytes (quotes : String)
  | raw (quotes : String)
  | dollar (tag : String)
  deriving DecidableEq

inductive Token
  | word (text : String) (quote? : Option Char)
  | number (numeral : String) (long : Bool)
  | string (form : StringForm) (text : String)
  | placeholder (text : String)
  | operator (text : String)
  | symbol (text : String)
  | stray (character : Char)
  deriving DecidableEq

namespace Token

/-- Whether the token is a bare word that spells a keyword, given in capitals. -/
def isKeyword (keyword : String) : Token → Bool
  | word text none => Text.capitals text == keyword
  | _ => false

/-- The keyword that a bare word spells, in capitals. -/
def keyword? : Token → Option String
  | word text none =>
    let spelled := Text.capitals text
    if allKeywords.contains spelled then some spelled else none
  | _ => none

/-- Whether the token is a word that spells no keyword. -/
def isPlainWord (token : Token) : Bool :=
  match token with
  | word _ _ => token.keyword?.isNone
  | _ => false

def isSymbol (text : String) : Token → Bool
  | symbol other => other == text
  | _ => false

end Token

/-- The characters of a quoted text, where a quote is doubled unless it follows
a backslash; a pair of quotes stays a pair. -/
def requoted (quote : Char) : Char → List Char → List Char
  | _, [] => []
  | previous, [character] =>
    if character = quote ∧ previous ≠ '\x5c' then [character, character] else [character]
  | previous, character :: next :: rest =>
    if character = quote then
      if previous = '\x5c' then character :: requoted quote previous (next :: rest)
      else if next = quote then character :: character :: requoted quote character rest
      else character :: character :: requoted quote character (next :: rest)
    else character :: requoted quote character (next :: rest)

def betweenQuotes (quote : Char) (text : String) : String :=
  String.ofList (quote :: (requoted quote '\x00' text.toList ++ [quote]))

def escapedCharacter (character : Char) : List Char :=
  if character = '\x27' then ['\x5c', '\x27']
  else if character = '\x5c' then ['\x5c', '\x5c']
  else if character = '\n' then ['\x5c', 'n']
  else if character = '\t' then ['\x5c', 't']
  else if character = '\x0d' then ['\x5c', 'r']
  else [character]

/-- The capital hexadecimal digits of a number, at least `width` of them. -/
def hexadecimal (width value : Nat) : List Char :=
  let digits := (Nat.toDigits 16 value).map Char.toUpper
  List.replicate (width - digits.length) '0' ++ digits

/-- The form of one character in a string with escapes by code. -/
def unicodeCharacter (character : Char) : List Char :=
  let code := character.toNat
  if character = '\x27' then ['\x27', '\x27']
  else if character = '\x5c' then ['\x5c', '\x5c']
  else if code < 128 then [character]
  else if code ≤ 0xffff then '\x5c' :: hexadecimal 4 code
  else '\x5c' :: '+' :: hexadecimal 6 code

def StringForm.write (form : StringForm) (text : String) : String :=
  match form with
  | single => betweenQuotes '\x27' text
  | double => betweenQuotes '\x22' text
  | tripleSingle => "'''" ++ text ++ "'''"
  | tripleDouble => "\"\"\"" ++ text ++ "\"\"\""
  | national => "N'" ++ text ++ "'"
  | hexadecimal => "X'" ++ text ++ "'"
  | escaped => "E'" ++ String.ofList (text.toList.flatMap escapedCharacter) ++ "'"
  | unicode => "U&'" ++ String.ofList (text.toList.flatMap unicodeCharacter) ++ "'"
  | bytes quotes => "B" ++ quotes ++ text ++ quotes
  | raw quotes => "R" ++ quotes ++ text ++ quotes
  | dollar tag => "$" ++ tag ++ "$" ++ text ++ "$" ++ tag ++ "$"

/-- A string as one token; unlike a value it keeps its characters as they are. -/
def StringForm.token (form : StringForm) (text : String) : String :=
  match form with
  | single => "'" ++ text ++ "'"
  | double => "\"" ++ text ++ "\""
  | escaped => "E'" ++ text ++ "'"
  | unicode => "U&'" ++ text ++ "'"
  | form => form.write text

/-- The text of a token. -/
def Token.write : Token → String
  | word text none => text
  | word text (some '[') => "[" ++ text ++ "]"
  | word text (some quote) => quote.toString ++ text ++ quote.toString
  | number numeral long => numeral ++ (if long then "L" else "")
  | string form text => form.token text
  | placeholder text | operator text | symbol text => text
  | stray character => character.toString

end Sql

end OrmCode
