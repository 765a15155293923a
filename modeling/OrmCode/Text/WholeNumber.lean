/-!
# Whole numbers

Counts are unsigned and fit into sixty-four bits; their text is decimal.
-/

namespace OrmCode

namespace Text

/-- The value of a list of decimal digits read after a number already begun. -/
def digitsValue (begun : Nat) : List Char → Nat
  | [] => begun
  | digit :: rest => digitsValue (begun * 10 + (digit.toNat - '0'.toNat)) rest

/-- The first number that does not fit into sixty-four bits. -/
def countBound : Nat := 18446744073709551616

/-- The number written by one or more decimal digits. -/
def wholeNumber? (text : String) : Option Nat :=
  let characters := text.toList
  if !characters.isEmpty && characters.all Char.isDigit then
    some (digitsValue 0 characters)
  else
    none

/-- The number written by one or more decimal digits if it is below `bound`. -/
def numberBelow? (bound : Nat) (text : String) : Option Nat :=
  (wholeNumber? text).filter (· < bound)

/-- The count written by one or more decimal digits, if it fits into sixty-four bits. -/
def count? (text : String) : Option Nat :=
  numberBelow? countBound text

end Text

end OrmCode
