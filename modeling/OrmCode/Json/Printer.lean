import OrmCode.Json.Value

/-!
# Writing JSON

A value is written over several lines, each nesting two blanks further in.
-/

namespace OrmCode

namespace Json

/-- The digit for a number below sixteen. -/
def hexadecimalDigit (value : Nat) : Char :=
  Char.ofNat (if value < 10 then 48 + value else 87 + value)

def writtenCharacter (character : Char) : List Char :=
  if character = '\x22' then ['\x5c', '\x22']
  else if character = '\x5c' then ['\x5c', '\x5c']
  else if character = '\x08' then ['\x5c', 'b']
  else if character = '\x0c' then ['\x5c', 'f']
  else if character = '\n' then ['\x5c', 'n']
  else if character = '\x0d' then ['\x5c', 'r']
  else if character = '\t' then ['\x5c', 't']
  else if character.toNat < 32 then
    ['\x5c', 'u', '0', '0', hexadecimalDigit (character.toNat / 16),
      hexadecimalDigit (character.toNat % 16)]
  else [character]

def writtenText (content : String) : String :=
  String.ofList ('\x22' :: (content.toList.flatMap writtenCharacter ++ ['\x22']))

/-- The blanks at the start of a line nested `depth` times. -/
def indentation (depth : Nat) : String :=
  String.ofList (List.replicate (2 * depth) ' ')

/-- Written items between brackets, each on a line of its own. -/
def block (opening closing : String) (depth : Nat) (items : List String) : String :=
  if items.isEmpty then
    opening ++ closing
  else
    opening ++ "\n" ++ ",\n".intercalate (items.map (indentation (depth + 1) ++ ·)) ++ "\n" ++
      indentation depth ++ closing

namespace Value

/-- The written form of a value nested `depth` times. -/
def write (depth : Nat) : Value → String
  | null => "null"
  | boolean true => "true"
  | boolean false => "false"
  | number numeral => numeral
  | text content? => writtenText (content?.getD "")
  | array items => block "[" "]" depth (writeItems (depth + 1) items)
  | object members => block "\x7b" "\x7d" depth (writeMembers (depth + 1) members)
where
  /-- The written forms of the items of an array. -/
  writeItems (depth : Nat) : List Value → List String
    | [] => []
    | item :: items => item.write depth :: writeItems depth items
  /-- The written forms of the members of an object. -/
  writeMembers (depth : Nat) : List (Option String × Value) → List String
    | [] => []
    | (name?, value) :: members =>
      (writtenText (name?.getD "") ++ ": " ++ value.write depth) :: writeMembers depth members

/-- The written form of a value over several lines. -/
def pretty (value : Value) : String :=
  value.write 0

end Value

end Json

end OrmCode
