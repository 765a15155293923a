/-!
# Double-quoted texts

Messages that show a constant show its text between double quotes, with an
escape for every character that cannot be seen.
-/

namespace OrmCode

namespace Text

/-- The ranges of characters beyond ASCII that are shown by their number: controls,
formats, blanks, marks that combine with the character before, and private use. -/
def hiddenRanges : List (Nat × Nat) :=
  [(0x80, 0xa0), (0xad, 0xad), (0x300, 0x36f), (0x378, 0x379), (0x483, 0x489), (0x591, 0x5bd),
    (0x600, 0x605), (0x610, 0x61a), (0x61c, 0x61c), (0x64b, 0x65f), (0x6dd, 0x6dd),
    (0x70f, 0x70f), (0x180e, 0x180e), (0x1ab0, 0x1ace), (0x1dc0, 0x1dff), (0x1680, 0x1680),
    (0x2000, 0x200f), (0x2028, 0x202f), (0x205f, 0x206f), (0x20d0, 0x20f0), (0x3000, 0x3000),
    (0x302a, 0x302f), (0x3099, 0x309a), (0xe000, 0xf8ff), (0xfe00, 0xfe0f), (0xfe20, 0xfe2f),
    (0xfeff, 0xfeff), (0xfff0, 0xfffb), (0xfffe, 0xffff), (0xe0001, 0xe007f),
    (0xe0100, 0xe01ef), (0xf0000, 0x10ffff)]

/-- Whether a character is shown by its number. -/
def isHidden (character : Char) : Bool :=
  let code := character.toNat
  code < 0x20 || code == 0x7f || hiddenRanges.any fun (low, high) => low ≤ code && code ≤ high

/-- The written form of one character between double quotes. -/
def escapedCharacter (character : Char) : List Char :=
  if character = '\t' then ['\x5c', 't']
  else if character = '\x0d' then ['\x5c', 'r']
  else if character = '\n' then ['\x5c', 'n']
  else if character = '\x22' then ['\x5c', '\x22']
  else if character = '\x5c' then ['\x5c', '\x5c']
  else if character = '\x00' then ['\x5c', '0']
  else if isHidden character then
    ['\x5c', 'u', '\x7b'] ++ Nat.toDigits 16 character.toNat ++ ['\x7d']
  else [character]

/-- The text between double quotes with escapes. -/
def escaped (text : String) : String :=
  String.ofList ('\x22' :: (text.toList.flatMap escapedCharacter ++ ['\x22']))

end Text

end OrmCode
