import OrmCode.Sql.Tree

/-!
# Readers of tokens

A reader takes tokens off the front of a list.  It fails where the tokens do not
have the form it reads, and it gives up where expressions are nested too deeply;
only the first kind of failure can be recovered from by reading something else.
-/

namespace OrmCode

namespace Sql

/-- Why a reader did not succeed. -/
inductive Failure
  | unexpected
  | tooDeep
  deriving DecidableEq

/-- Takes tokens off the front of a list. -/
abbrev Reader := StateT (List Token) (Except Failure)

namespace Reader

def unexpected {α : Type} : Reader α :=
  throw .unexpected

def rest : Reader (List Token) :=
  get

/-- The next token, which stays. -/
def peek? : Reader (Option Token) := do
  return (← rest).head?

def peekSecond? : Reader (Option Token) := do
  return (← rest)[1]?

def next : Reader Token := do
  match ← rest with
  | [] => unexpected
  | token :: others =>
    set others
    return token

/-- Takes up to `count` tokens. -/
def skip (count : Nat) : Reader Unit :=
  modify (List.drop count)

/-- What a reader reads, or nothing, with all tokens left, where it fails. -/
def attempt {α : Type} (reader : Reader α) : Reader (Option α) := fun tokens =>
  match reader.run tokens with
  | .ok (value, others) => .ok (some value, others)
  | .error .unexpected => .ok (none, tokens)
  | .error .tooDeep => .error .tooDeep

def nextIs (property : Token → Bool) : Reader Bool := do
  return (← peek?).any property

def takeIf (property : Token → Bool) : Reader Bool := do
  if ← nextIs property then
    skip 1
    return true
  else
    return false

def peekKeyword (keyword : String) : Reader Bool :=
  nextIs (Token.isKeyword keyword)

def keyword (word : String) : Reader Bool :=
  takeIf (Token.isKeyword word)

def startWith : List String → List Token → Bool
  | [], _ => true
  | _ :: _, [] => false
  | word :: words, token :: tokens => token.isKeyword word && startWith words tokens

/-- Takes several keywords if all of them are next. -/
def keywords (words : List String) : Reader Bool := do
  if startWith words (← rest) then
    skip words.length
    return true
  else
    return false

/-- Takes the one of some keywords that is next. -/
def oneOf? (words : List String) : Reader (Option String) := do
  let token? ← peek?
  match words.find? fun word => token?.any (Token.isKeyword word) with
  | some word =>
    skip 1
    return some word
  | none => return none

/-- Takes a keyword that must be next. -/
def expectKeyword (word : String) : Reader Unit := do
  unless ← keyword word do unexpected

/-- Takes keywords that must be next. -/
def expectKeywords (words : List String) : Reader Unit := do
  unless ← keywords words do unexpected

/-- Takes the one of some keywords that must be next. -/
def expectOneOf (words : List String) : Reader String := do
  match ← oneOf? words with
  | some word => return word
  | none => unexpected

def peekSymbol (text : String) : Reader Bool :=
  nextIs (Token.isSymbol text)

def symbol (text : String) : Reader Bool :=
  takeIf (Token.isSymbol text)

/-- Takes a symbol that must be next. -/
def expectSymbol (text : String) : Reader Unit := do
  unless ← symbol text do unexpected

/-- A question that is asked only where it is allowed, and denied elsewhere. -/
def onlyIf (allowed : Bool) (question : Reader Bool) : Reader Bool :=
  if allowed then question else return false

def whenRead {α : Type} (condition : Reader Bool) (reader : Reader α) : Reader (Option α) := do
  if ← condition then
    return some (← reader)
  else
    return none

/-- A text that a reader reads if a condition holds, and no text otherwise. -/
def textWhen (condition : Reader Bool) (reader : Reader String) : Reader String := do
  return (← whenRead condition reader).getD ""

/-- What the first reader that finds something reads.  Tokens that those before
it took without finding anything stay taken. -/
def firstOf? {α : Type} : List (Reader (Option α)) → Reader (Option α)
  | [] => return none
  | reader :: readers => do
    match ← reader with
    | some value => return some value
    | none => firstOf? readers

def inParentheses {α : Type} (reader : Reader α) : Reader α := do
  expectSymbol "("
  let value ← reader
  expectSymbol ")"
  return value

/-- Whether a list may end before the next token, if a comma may stand after its last item. -/
def endsList (token? : Option Token) : Bool :=
  match token? with
  | none => true
  | some token =>
    (token.keyword?.any notColumnAliases.contains) ||
      [")", ";", "]", "\x7d"].any fun text => token.isSymbol text

/-- Reads one item after another as long as commas follow, at most `fuel` of them. -/
def separatedWithin {α : Type} (trailing : Bool) (reader : Reader α) : Nat → Reader (List α)
  | 0 => unexpected
  | fuel + 1 => do
    let item ← reader
    if ← symbol "," then
      if trailing && endsList (← peek?) then
        return [item]
      else
        return item :: (← separatedWithin trailing reader fuel)
    else
      return [item]

/-- Reads items separated by commas, where one more comma may follow if `trailing` says so. -/
def separated {α : Type} (trailing : Bool) (reader : Reader α) : Reader (List α) := do
  separatedWithin trailing reader ((← rest).length + 1)

/-- Reads as long as the reader finds something, at most `fuel` times. -/
def manyWithin {α : Type} (reader : Reader (Option α)) : Nat → Reader (List α)
  | 0 => return []
  | fuel + 1 => do
    match ← reader with
    | none => return []
    | some value => return value :: (← manyWithin reader fuel)

/-- Reads as long as the reader finds something. -/
def many {α : Type} (reader : Reader (Option α)) : Reader (List α) := do
  manyWithin reader ((← rest).length + 1)

/-- Changes a value as long as the reader finds a change, at most `fuel` times. -/
def iterateWithin {α : Type} (change : α → Reader (Option α)) : Nat → α → Reader α
  | 0, value => return value
  | fuel + 1, value => do
    match ← change value with
    | none => return value
    | some changed => iterateWithin change fuel changed

/-- Changes a value as long as the reader finds a change. -/
def iterate {α : Type} (change : α → Reader (Option α)) (value : α) : Reader α := do
  iterateWithin change ((← rest).length + 1) value

end Reader

end Sql

end OrmCode
