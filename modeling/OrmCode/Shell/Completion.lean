import OrmCode.Text.Blank
import OrmCode.Text.Lines
import OrmCode.Text.LetterCase

/-!
# Completion of words

The shell completes the word before the cursor: a command that starts with a
period, or a keyword of SQL.  Positions count bytes.
-/

namespace OrmCode

namespace Shell

def commandNames : List String :=
  [".help", ".exit", ".quit", ".orm", ".strict", ".clear"]

def completedKeywords : List String :=
  ["CREATE", "TABLE", "PRIMARY", "KEY", "AUTO_INCREMENT", "NOT", "NULL", "DEFAULT", "UNIQUE",
    "INSERT", "INTO", "VALUES", "SELECT", "FROM", "WHERE", "ORDER", "BY", "ASC", "DESC",
    "LIMIT", "OFFSET", "UPDATE", "SET", "DELETE", "AND", "OR", "IN", "LIKE", "BETWEEN", "IS"]

/-- Where the completed word starts, and what it may become. -/
structure Completion where
  start : Nat
  candidates : List String
  deriving DecidableEq

/-- The number of bytes that characters take. -/
def byteCount (characters : List Char) : Nat :=
  (String.ofList characters).utf8ByteSize

/-- The characters that take exactly `count` bytes at the start, if there are such. -/
def firstBytes? : Nat → List Char → Option (List Char)
  | 0, _ => some []
  | _ + 1, [] => none
  | count + 1, character :: rest =>
    if character.utf8Size ≤ count + 1 then
      (firstBytes? (count + 1 - character.utf8Size) rest).map fun others => character :: others
    else
      none
termination_by _ characters => characters.length

/-- The characters between two positions, if both lie between characters and the second one
does not lie before the first. -/
def slice? (start stop : Nat) (characters : List Char) : Option (List Char) :=
  (firstBytes? stop characters).bind fun first =>
    (firstBytes? start first).map fun before => first.drop before.length

/-- Whether a word ends before a character. -/
def separatesWords (character : Char) : Bool :=
  Text.isBlank character || character == '('

/-- The commands that go on from what is written. -/
def commandCandidates (written : List Char) : List String :=
  commandNames.filter fun command => (Text.afterStart? written command.toList).isSome

/-- The keywords that go on from what is written, in any letter case. -/
def keywordCandidates (written : List Char) : List String :=
  completedKeywords.filter fun keyword =>
    (Text.afterStart? (written.map Char.toUpper) keyword.toList).isSome

/-- The position of the last character that separates words. -/
def lastSeparator? (written : List Char) : Option Nat :=
  match written.reverse.dropWhile fun character => !separatesWords character with
  | [] => none
  | _ :: before => some (byteCount before.reverse)

/-- The word before the end of what is written starts one byte behind the last separator. -/
def wordStart (written : List Char) : Nat :=
  (lastSeparator? written).elim 0 (· + 1)

/-- The completion of the last word of what is written, unless it would start inside a
character. -/
def completeWord (written : List Char) : Option Completion :=
  (slice? (wordStart written) (byteCount written) written).map fun word =>
    ⟨wordStart written, keywordCandidates word⟩

/-- The completion at a position of a line, unless it is no position between characters. -/
def complete (line : String) (position : Nat) : Option Completion :=
  (firstBytes? position line.toList).bind fun written =>
    if written.head? = some '.' then some ⟨0, commandCandidates written⟩
    else completeWord written

end Shell

end OrmCode
