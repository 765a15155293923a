import OrmCode.Sql.Dialect
import OrmCode.Sql.Token
import OrmCode.Text.Blank
import OrmCode.Text.Lines
import OrmCode.Text.WholeNumber

/-!
# Reading tokens

Every step takes one token, one blank or one comment off the front of the text
and leaves a shorter rest.  A string, a quoted name or a comment that does not
end makes the text unreadable.
-/

namespace OrmCode

namespace Sql

/-- A token, or nothing for a blank or a comment, and the characters after it. -/
abbrev Scanned := Option Token × List Char

def scanWord (dialect : Dialect) (begun rest : List Char) : Scanned :=
  (some (.word (String.ofList (begun ++ rest.takeWhile dialect.continuesName)) none),
    rest.dropWhile dialect.continuesName)

def escapeValue : Char → Char
  | '0' => '\x00'
  | 'a' => '\x07'
  | 'b' => '\x08'
  | 'f' => '\x0c'
  | 'n' => '\n'
  | 'r' => '\x0d'
  | 't' => '\t'
  | 'Z' => '\x1a'
  | other => other

/-- The text up to the closing quote and the characters after it.  A doubled
quote stands for one. -/
def untilQuote (quote : Char) (backslash : Bool) : List Char → Option (List Char × List Char)
  | [] => none
  | [character] => if character = quote then some ([], []) else none
  | character :: next :: rest =>
    if character = quote then
      if next = quote then
        (untilQuote quote backslash rest).map fun (text, after) => (quote :: text, after)
      else some ([], next :: rest)
    else if character = '\x5c' ∧ backslash = true then
      (untilQuote quote backslash rest).map fun (text, after) => (escapeValue next :: text, after)
    else
      (untilQuote quote backslash (next :: rest)).map fun (text, after) =>
        (character :: text, after)

/-- The text up to three closing quotes and the characters after them. -/
def untilThreeQuotes (quote : Char) (backslash : Bool) :
    List Char → Option (List Char × List Char)
  | [] => none
  | [_] => none
  | character :: next :: rest =>
    if character = '\x5c' ∧ backslash = true then
      (untilThreeQuotes quote backslash rest).map fun (text, after) =>
        (escapeValue next :: text, after)
    else if character = quote ∧ next = quote ∧ rest.head? = some quote then
      some ([], rest.drop 1)
    else
      (untilThreeQuotes quote backslash (next :: rest)).map fun (text, after) =>
        (character :: text, after)

def scanString (form : StringForm) (quote : Char) (backslash : Bool) (rest : List Char) :
    Option Scanned :=
  (untilQuote quote backslash rest).map fun (text, after) =>
    (some (.string form (String.ofList text)), after)

/-- A string after its first opening quote, of the second form when three
quotes open it in a dialect with such strings. -/
def scanStringOrTriple (dialect : Dialect) (form triple : StringForm) (quote : Char)
    (backslash : Bool) (rest : List Char) : Option Scanned :=
  match dialect.tripleQuotes, rest with
  | true, second :: third :: body =>
    if second = quote ∧ third = quote then
      (untilThreeQuotes quote backslash body).map fun (text, after) =>
        (some (.string triple (String.ofList text)), after)
    else scanString form quote backslash rest
  | _, _ => scanString form quote backslash rest

/-- A name up to its closing quote and the characters after it.  A doubled
closing quote stands for one. -/
def untilNameEnd (closing : Char) : List Char → Option (List Char × List Char)
  | [] => none
  | [character] => if character = closing then some ([], []) else none
  | character :: next :: rest =>
    if character = closing then
      if next = closing then
        (untilNameEnd closing rest).map fun (text, after) => (closing :: text, after)
      else some ([], next :: rest)
    else
      (untilNameEnd closing (next :: rest)).map fun (text, after) => (character :: text, after)

def closingQuote (opening : Char) : Char :=
  if opening = '[' then ']' else opening

/-- A bracket or quote opens a name only where the dialect takes what follows for one. -/
def quotesName (dialect : Dialect) (opening : Char) (rest : List Char) : Bool :=
  dialect.opensQuotedName opening &&
    (dialect != .redshift ||
      ((rest.dropWhile Text.isBlank).head?.any dialect.startsName))

/-- The value of a hexadecimal digit. -/
def hexValue? (character : Char) : Option Nat :=
  if character.isDigit then some (character.toNat - 48)
  else if 'a' ≤ character ∧ character ≤ 'f' then some (character.toNat - 87)
  else if 'A' ≤ character ∧ character ≤ 'F' then some (character.toNat - 55)
  else none

def isHexadecimal (character : Char) : Bool :=
  (hexValue? character).isSome

/-- The number written by digits in a base. -/
def valueOf (base : Nat) (digits : List Char) : Nat :=
  digits.foldl (fun value digit => value * base + (hexValue? digit).getD 0) 0

def characterOf? (code : Nat) : Option Char :=
  if code.isValidChar then some (Char.ofNat code) else none

/-- The character of a code written in `count` digits, and what follows. -/
def byCode? (count : Nat) (rest : List Char) : Option (Char × List Char) :=
  let digits := rest.take count
  if digits.length = count ∧ digits.all isHexadecimal = true then
    (characterOf? (valueOf 16 digits)).map fun character => (character, rest.drop count)
  else none

def isOctal (character : Char) : Bool :=
  '0' ≤ character && character ≤ '7'

/-- The character of a byte; a zero byte is none. -/
def byteCharacter? (value : Nat) : Option Char :=
  let byte := value % 256
  if byte = 0 ∨ 128 ≤ byte then none else some (Char.ofNat byte)

/-- The character that an escape stands for, and what follows. -/
def unescape? : List Char → Option (Char × List Char)
  | [] => none
  | 'b' :: rest => some ('\x08', rest)
  | 'f' :: rest => some ('\x0c', rest)
  | 'n' :: rest => some ('\n', rest)
  | 'r' :: rest => some ('\x0d', rest)
  | 't' :: rest => some ('\t', rest)
  | 'u' :: rest => byCode? 4 rest
  | 'U' :: rest => byCode? 8 rest
  | 'x' :: rest =>
    match (rest.take 2).takeWhile isHexadecimal with
    | [] => some ('x', rest)
    | digits => (byteCharacter? (valueOf 16 digits)).map fun character =>
      (character, rest.drop digits.length)
  | character :: rest =>
    if isOctal character then
      let digits := character :: (rest.take 2).takeWhile isOctal
      (byteCharacter? (valueOf 8 digits)).map fun value => (value, rest.drop (digits.length - 1))
    else some (character, rest)

/-- The text of a string with escapes up to its closing quote. -/
def untilEscapedQuote : Nat → List Char → Option (List Char × List Char)
  | 0, _ => none
  | _ + 1, [] => none
  | fuel + 1, '\x27' :: '\x27' :: rest =>
    (untilEscapedQuote fuel rest).map fun (text, after) => ('\x27' :: text, after)
  | _ + 1, '\x27' :: rest => some ([], rest)
  | fuel + 1, '\x5c' :: rest =>
    (unescape? rest).bind fun (character, left) =>
      if character = '\x00' then none
      else (untilEscapedQuote fuel left).map fun (text, after) => (character :: text, after)
  | fuel + 1, character :: rest =>
    (untilEscapedQuote fuel rest).map fun (text, after) => (character :: text, after)

/-- The text of a string with escapes by code up to its closing quote. -/
def untilUnicodeQuote : Nat → List Char → Option (List Char × List Char)
  | 0, _ => none
  | _ + 1, [] => none
  | fuel + 1, '\x27' :: '\x27' :: rest =>
    (untilUnicodeQuote fuel rest).map fun (text, after) => ('\x27' :: text, after)
  | _ + 1, '\x27' :: rest => some ([], rest)
  | fuel + 1, '\x5c' :: '\x5c' :: rest =>
    (untilUnicodeQuote fuel rest).map fun (text, after) => ('\x5c' :: text, after)
  | fuel + 1, '\x5c' :: '+' :: rest =>
    (byCode? 6 rest).bind fun (character, left) =>
      (untilUnicodeQuote fuel left).map fun (text, after) => (character :: text, after)
  | fuel + 1, '\x5c' :: rest =>
    (byCode? 4 rest).bind fun (character, left) =>
      (untilUnicodeQuote fuel left).map fun (text, after) => (character :: text, after)
  | fuel + 1, character :: rest =>
    (untilUnicodeQuote fuel rest).map fun (text, after) => (character :: text, after)

/-- The digits of an exponent with its letter and sign, if one stands here. -/
def exponent : List Char → List Char
  | letter :: rest =>
    if letter = 'e' ∨ letter = 'E' then
      let sign := (rest.take 1).filter fun character => character == '+' || character == '-'
      match (rest.drop sign.length).takeWhile Char.isDigit with
      | [] => []
      | digits => letter :: (sign ++ digits)
    else []
  | [] => []

/-- The point of a number, if it stands here. -/
def point (rest : List Char) : List Char :=
  (rest.take 1).filter (· == '.')

/-- A number, a period, or a word that starts with digits. -/
def scanNumber (dialect : Dialect) (characters : List Char) : Scanned :=
  let whole := characters.takeWhile Char.isDigit
  let afterWhole := characters.dropWhile Char.isDigit
  if whole = ['0'] ∧ afterWhole.head? = some 'x' then
    let digits := (afterWhole.drop 1).takeWhile isHexadecimal
    (some (.string .hexadecimal (String.ofList digits)),
      (afterWhole.drop 1).dropWhile isHexadecimal)
  else
    let dot := point afterWhole
    let afterDot := afterWhole.drop dot.length
    let mantissa := whole ++ dot ++ afterDot.takeWhile Char.isDigit
    let afterMantissa := afterDot.dropWhile Char.isDigit
    if mantissa = ['.'] then
      (some (.symbol "."), afterMantissa)
    else
      let power := exponent afterMantissa
      let rest := afterMantissa.drop power.length
      let tail := rest.takeWhile dialect.continuesName
      if dialect.digitsStartNames && power.isEmpty && !tail.isEmpty then
        (some (.word (String.ofList (mantissa ++ tail)) none),
          rest.dropWhile dialect.continuesName)
      else if rest.head? = some 'L' then
        (some (.number (String.ofList (mantissa ++ power)) true), rest.drop 1)
      else
        (some (.number (String.ofList (mantissa ++ power)) false), rest)

/-- What follows a comment that ends with its line. -/
def afterLine (rest : List Char) : List Char :=
  (rest.dropWhile (· != '\n')).drop 1

/-- What follows a comment that may hold others, `depth` of them open around
the current place, which the character `previous` precedes. -/
def afterComment : Nat → Char → List Char → Option (List Char)
  | _, _, [] => none
  | depth, previous, character :: rest =>
    if previous = '/' ∧ character = '*' then afterComment (depth + 1) character rest
    else if previous = '*' ∧ character = '/' then
      match depth with
      | 0 => some rest
      | outer + 1 => afterComment outer character rest
    else afterComment depth character rest

/-- The text up to a pair of dollar signs and the characters after it. -/
def untilDollars : List Char → Option (List Char × List Char)
  | [] => none
  | [_] => none
  | '$' :: '$' :: rest => some ([], rest)
  | character :: next :: rest =>
    (untilDollars (next :: rest)).map fun (text, after) => (character :: text, after)

/-- A letter or digit of any language. -/
def isAlphanumeric (character : Char) : Bool :=
  Text.isAlphabetic character || character.isDigit

/-- What follows a dollar sign: a string between tags, or a placeholder. -/
def scanDollar (rest : List Char) : Option Scanned :=
  match rest with
  | '$' :: body =>
    (untilDollars body).map fun (text, after) =>
      (some (.string (.dollar "") (String.ofList text)), after)
  | _ =>
    let isTag := fun character => isAlphanumeric character || character == '_'
    let tag := rest.takeWhile isTag
    match rest.dropWhile isTag with
    | '$' :: body =>
      (Text.splitOnce? ('$' :: (tag ++ ['$'])) body).map fun (text, after) =>
        (some (.string (.dollar (String.ofList tag)) (String.ofList text)), after)
    | after => some (some (.placeholder (String.ofList ('$' :: tag))), after)

/-- The operators and other symbols, a longer one before its beginnings. -/
def symbols : List String :=
  ["->>", "||/", "!~~*", "!~~", "!~*", "<=>", "~~*", "#>>", "->", "|/", "||", "=>", "==", "!=",
    "!!", "!~", "<=", "<>", "<<", "<@", ">=", ">>", "::", ":=", "&&", "^@", "~~", "~*", "#>",
    "#-", "@>", "@?", "@@", "(", ")", ",", "-", "/", "+", "*", "%", "|", "=", "!", "<", ">", ":",
    ";", "\x5c", "[", "]", "&", "^", "\x7b", "\x7d", "~", "#", "@"]

/-- The symbols that further operator characters turn into another operator. -/
def extensible : List String :=
  ["-", "->", "->>", "%", "|", "||", "|/", "||/", "<", "<=", "<>", "<<", "<@", "<=>", ">", ">=",
    ">>", "&", "&&", "~", "~*", "~~", "~~*", "#", "#>", "#>>", "#-"]

def isOperatorCharacter (character : Char) : Bool :=
  "+-*/<>=~!@#%^&|`?".toList.contains character

/-- The first of some symbols that the characters start with, and what follows. -/
def symbolAtStart? (candidates : List String) (characters : List Char) :
    Option (String × List Char) :=
  candidates.findSome? fun candidate =>
    (Text.afterStart? candidate.toList characters).map fun rest => (candidate, rest)

/-- The printed form of a symbol: the two signs of difference are one. -/
def symbolText (text : String) : String :=
  if text = "!=" then "<>" else text

/-- A symbol, an operator made of further characters, or a character of no meaning. -/
def scanSymbol (dialect : Dialect) (first : Char) (rest : List Char) : Scanned :=
  match symbolAtStart? symbols (first :: rest) with
  | none => (some (.stray first), rest)
  | some (text, after) =>
    let more := after.takeWhile isOperatorCharacter
    if dialect = .postgresql ∧ extensible.contains text = true ∧ more ≠ [] then
      (some (.operator (text ++ String.ofList more)), after.dropWhile isOperatorCharacter)
    else (some (.symbol (symbolText text)), after)

/-- A sign before a name: one or two of them belong to the name in dialects
whose names may start with it, unless a blank or quote follows. -/
def scanSign (dialect : Dialect) (sign : Char) (rest : List Char) : Scanned :=
  match sign, rest with
  | '@', '@' :: next :: after =>
    if next ≠ ' ' ∧ dialect.startsName '@' = true then scanWord dialect ['@', '@', next] after
    else (some (.symbol "@@"), next :: after)
  | '@', next :: after =>
    if [' ', '\x27', '\x22', '\x60'].contains next then (some (.symbol "@"), rest)
    else if next = '>' ∨ next = '?' ∨ next = '@' then scanSymbol dialect '@' rest
    else if dialect.startsName '@' then scanWord dialect ['@', next] after
    else (some (.symbol "@"), rest)
  | _, next :: after =>
    if next = '-' ∨ next = '>' then scanSymbol dialect sign rest
    else if next = ' ' then (some (.symbol "#"), rest)
    else if dialect.startsName sign then scanWord dialect [sign, next] after
    else scanSymbol dialect sign rest
  | _, [] => scanSymbol dialect sign []

/-- A question mark: an operator where the dialect has such, else a placeholder. -/
def scanQuestion (dialect : Dialect) (rest : List Char) : Scanned :=
  if dialect = .postgresql then
    match rest with
    | '|' :: after => (some (.symbol "?|"), after)
    | '&' :: after => (some (.symbol "?&"), after)
    -- The character after a lone question mark is taken along, whatever it is.
    | _ => (some (.symbol "?"), rest.drop 1)
  else
    (some (.placeholder (String.ofList ('?' :: rest.takeWhile Char.isDigit))),
      rest.dropWhile Char.isDigit)

/-- The string that a letter announces, if the letter and the quote after it do so. -/
def scanAnnounced? (dialect : Dialect) (first : Char) (rest : List Char) :
    Option (Option Scanned) :=
  match first.toUpper, rest with
  | 'B', '\x27' :: body =>
    if dialect.isAmong [.bigquery, .postgresql, .mysql, .generic] then
      some (scanStringOrTriple dialect (.bytes "'") (.bytes "'''") '\x27' false body)
    else none
  | 'B', '\x22' :: body =>
    if dialect.isAmong [.bigquery, .postgresql, .mysql, .generic] then
      some (scanStringOrTriple dialect (.bytes "\"") (.bytes "\"\"\"") '\x22' false body)
    else none
  | 'R', '\x27' :: body =>
    if dialect.isAmong [.bigquery, .generic] then
      some (scanStringOrTriple dialect (.raw "'") (.raw "'''") '\x27' false body)
    else none
  | 'R', '\x22' :: body =>
    if dialect.isAmong [.bigquery, .generic] then
      some (scanStringOrTriple dialect (.raw "\"") (.raw "\"\"\"") '\x22' false body)
    else none
  | 'N', '\x27' :: body => some (scanString .national '\x27' true body)
  | 'E', '\x27' :: body =>
    some ((untilEscapedQuote (body.length + 1) body).map fun (text, after) =>
      (some (.string .escaped (String.ofList text)), after))
  | 'U', '&' :: '\x27' :: body =>
    if dialect.isAmong [.generic, .postgresql] then
      some ((untilUnicodeQuote (body.length + 1) body).map fun (text, after) =>
        (some (.string .unicode (String.ofList text)), after))
    else none
  | 'X', '\x27' :: body => some (scanString .hexadecimal '\x27' true body)
  | _, _ => none

/-- Whether the letter announces strings in the dialect and so is a letter of a
name wherever no quote follows. -/
def announces (dialect : Dialect) (first : Char) : Bool :=
  match first.toUpper with
  | 'B' => dialect.isAmong [.bigquery, .postgresql, .mysql, .generic]
  | 'R' => dialect.isAmong [.bigquery, .generic]
  | 'U' => dialect.isAmong [.generic, .postgresql]
  | 'N' | 'E' | 'X' => true
  | _ => false

/-- The comment that starts here, if one does. -/
def scanComment? (dialect : Dialect) (first : Char) (rest : List Char) :
    Option (Option Scanned) :=
  match first, rest with
  | '-', '-' :: body => some (some (none, afterLine body))
  | '/', '*' :: body => some ((afterComment 0 ' ' body).map fun after => (none, after))
  | '/', '/' :: body => if dialect = .snowflake then some (some (none, afterLine body)) else none
  | '#', body => if dialect.hashComments then some (some (none, afterLine body)) else none
  | _, _ => none

/-- One token, blank or comment off the front of a text. -/
def scanStep (dialect : Dialect) (first : Char) (rest : List Char) : Option Scanned :=
  if first = ' ' ∨ first = '\t' ∨ first = '\n' ∨ first = '\x0d' then some (none, rest)
  else if let some announced := scanAnnounced? dialect first rest then announced
  else if announces dialect first then some (scanWord dialect [first] rest)
  else if first = '\x27' then
    scanStringOrTriple dialect .single .tripleSingle first dialect.backslashEscapes rest
  else if first = '\x22' ∧ dialect.opensQuotedName first = false then
    scanStringOrTriple dialect .double .tripleDouble first dialect.backslashEscapes rest
  else if quotesName dialect first rest then
    (untilNameEnd (closingQuote first) rest).map fun (text, after) =>
      (some (.word (String.ofList text) (some first)), after)
  else if first.isDigit || first == '.' then some (scanNumber dialect (first :: rest))
  else if let some comment := scanComment? dialect first rest then comment
  else if first = '/' ∧ rest.head? = some '/' ∧ dialect.isAmong [.duckdb, .generic] = true then
    some (some (.symbol "//"), rest.drop 1)
  else if first = '#' ∨ first = '@' then some (scanSign dialect first rest)
  else if first = '?' then some (scanQuestion dialect rest)
  else if dialect.startsName first then some (scanWord dialect [first] rest)
  else if (symbolAtStart? symbols (first :: rest)).isSome then some (scanSymbol dialect first rest)
  else if first = '$' then scanDollar rest
  else if Text.isBlank first then some (none, rest)
  else some (some (.stray first), rest)

/-- The tokens of a text, reading at most `fuel` steps. -/
def scanAll (dialect : Dialect) : Nat → List Char → Option (List Token)
  | _, [] => some []
  | 0, _ :: _ => none
  | fuel + 1, first :: rest =>
    (scanStep dialect first rest).bind fun (token?, after) =>
      (scanAll dialect fuel after).map fun tokens => token?.toList ++ tokens

/-- The tokens of a text, if every string, quoted name and comment in it ends. -/
def scan (dialect : Dialect) (text : String) : Option (List Token) :=
  scanAll dialect text.length text.toList

end Sql

end OrmCode
