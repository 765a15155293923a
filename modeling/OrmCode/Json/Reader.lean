import OrmCode.Json.Value

/-!
# Reading JSON

A reader takes characters off the front of a list or fails.  A text is read as
the code units it is written with, of which pairs of surrogates are joined.
-/

namespace OrmCode

namespace Json

/-- Takes characters off the front of a list. -/
abbrev Reader := StateT (List Char) Option

namespace Reader

def next : Reader Char := do
  match ← get with
  | [] => failure
  | character :: rest =>
    set rest
    return character

def take (character : Char) : Reader Bool := do
  match ← get with
  | first :: rest =>
    if first = character then
      set rest
      return true
    else
      return false
  | [] => return false

/-- Takes a character that must be next. -/
def expect (character : Char) : Reader Unit := do
  unless ← take character do failure

/-- Takes the characters of a word that must be next. -/
def expectAll : List Char → Reader Unit
  | [] => return
  | character :: characters => do
    expect character
    expectAll characters

/-- The characters that may stand between the parts of a value. -/
def isBlank (character : Char) : Bool :=
  character == ' ' || character == '\n' || character == '\t' || character == '\x0d'

def skipBlanks : Reader Unit :=
  modify (List.dropWhile isBlank)

def digits : Reader (List Char) := do
  let characters ← get
  set (characters.dropWhile Char.isDigit)
  return characters.takeWhile Char.isDigit

/-- Takes one or more digits. -/
def someDigits : Reader (List Char) := do
  match ← digits with
  | [] => failure
  | found => return found

/-- The whole part of a number, without a zero before other digits. -/
def wholePart : Reader (List Char) := do
  match ← someDigits with
  | '0' :: _ :: _ => failure
  | found => return found

/-- A point and the digits after it, if a point is next. -/
def fraction : Reader (List Char) := do
  if ← take '.' then return '.' :: (← someDigits) else return []

def exponentSign : Reader (List Char) := do
  if ← take '+' then return ['+']
  else if ← take '-' then return ['-']
  else return []

def exponent : Reader (List Char) := do
  match ← get with
  | first :: rest =>
    if first = 'e' ∨ first = 'E' then
      set rest
      let sign ← exponentSign
      return first :: (sign ++ (← someDigits))
    else
      return []
  | [] => return []

def number : Reader Value := do
  let sign ← if ← take '-' then pure ['-'] else pure []
  let whole ← wholePart
  let decimals ← fraction
  let power ← exponent
  return .number (String.ofList (sign ++ whole ++ decimals ++ power))

def hexadecimalDigit (character : Char) : Option Nat :=
  let code := character.toNat
  if character.isDigit then some (code - 48)
  else if 'a' ≤ character ∧ character ≤ 'f' then some (code - 87)
  else if 'A' ≤ character ∧ character ≤ 'F' then some (code - 55)
  else none

/-- The number written by exactly `count` hexadecimal digits after a number already begun. -/
def hexadecimal (begun : Nat) : Nat → Reader Nat
  | 0 => return begun
  | count + 1 => do
    match hexadecimalDigit (← next) with
    | some digit => hexadecimal (begun * 16 + digit) count
    | none => failure

/-- The code unit that an escape stands for, after its backslash. -/
def escape : Reader Nat := do
  match ← next with
  | 'n' => return 10
  | 't' => return 9
  | 'r' => return 13
  | 'b' => return 8
  | 'f' => return 12
  | '/' => return 47
  | 'u' => hexadecimal 0 4
  | character =>
    if character = '\x22' ∨ character = '\x5c' then return character.toNat else failure

/-- The code units of a text up to its closing quote. -/
def units : Nat → Reader (List Nat)
  | 0 => failure
  | fuel + 1 => do
    let character ← next
    if character = '\x22' then
      return []
    else if character = '\x5c' then
      let unit ← escape
      return unit :: (← units fuel)
    else if character.toNat < 32 then
      failure
    else
      return character.toNat :: (← units fuel)

/-- The characters of code units, if every surrogate belongs to a pair. -/
def joined? : List Nat → Option (List Char)
  | [] => some []
  | [unit] => if 0xd800 ≤ unit ∧ unit < 0xe000 then none else some [Char.ofNat unit]
  | first :: second :: rest =>
    if 0xd800 ≤ first ∧ first < 0xdc00 then
      if 0xdc00 ≤ second ∧ second < 0xe000 then
        (joined? rest).map fun others =>
          Char.ofNat (0x10000 + (first - 0xd800) * 0x400 + (second - 0xdc00)) :: others
      else
        none
    else if 0xdc00 ≤ first ∧ first < 0xe000 then
      none
    else
      (joined? (second :: rest)).map fun others => Char.ofNat first :: others

/-- A text after its opening quote. -/
def content? : Reader (Option String) := do
  let found ← units ((← get).length)
  return (joined? found).map String.ofList

/-- Items separated by commas up to a closing character, at most `fuel` of them. -/
def items {α : Type} (item : Reader α) (closing : Char) : Nat → Reader (List α)
  | 0 => failure
  | fuel + 1 => do
    let first ← item
    skipBlanks
    if ← take ',' then
      return first :: (← items item closing fuel)
    else
      expect closing
      return [first]

/-- Items separated by commas up to a closing character, or none. -/
def itemsUntil {α : Type} (item : Reader α) (closing : Char) : Reader (List α) := do
  skipBlanks
  if ← take closing then return [] else items item closing (← get).length

def member (value : Reader Value) : Reader (Option String × Value) := do
  skipBlanks
  expect '\x22'
  let name? ← content?
  skipBlanks
  expect ':'
  return (name?, ← value)

/-- A value, nested at most `fuel` times. -/
def value : Nat → Reader Value
  | 0 => failure
  | fuel + 1 => do
    skipBlanks
    match ← get with
    | '\x22' :: rest =>
      set rest
      return .text (← content?)
    | '[' :: rest =>
      set rest
      return .array (← itemsUntil (value fuel) ']')
    | '\x7b' :: rest =>
      set rest
      return .object (← itemsUntil (member (value fuel)) '\x7d')
    | 't' :: _ =>
      expectAll ['t', 'r', 'u', 'e']
      return .boolean true
    | 'f' :: _ =>
      expectAll ['f', 'a', 'l', 's', 'e']
      return .boolean false
    | 'n' :: _ =>
      expectAll ['n', 'u', 'l', 'l']
      return .null
    | _ => number

end Reader

/-- The value that a text is, with blanks around it. -/
def parse? (text : String) : Option Value :=
  let characters := text.toList
  match (Reader.value (characters.length + 1)).run characters with
  | some (value, rest) => if rest.all Reader.isBlank then some value else none
  | none => none

end Json

end OrmCode
