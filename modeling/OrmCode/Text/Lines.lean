import OrmCode.Text.Blank

/-!
# Lines and affixes

A line ends at a line feed, and a carriage return right before that line feed
belongs to the ending.  The last line needs no ending.
-/

namespace OrmCode

namespace Text

/-- The characters without a carriage return at their end. -/
def dropCarriageReturn (characters : List Char) : List Char :=
  if characters.getLast? = some '\x0d' then characters.dropLast else characters

/-- The lines of a text: every ended line without its ending, and what is left
after the last ending unless nothing is. -/
def lineCharacters (characters : List Char) : List (List Char) :=
  let pieces := splitCharacters (· == '\n') characters
  let ended := pieces.dropLast.map dropCarriageReturn
  match pieces.getLast? with
  | some (character :: rest) => ended ++ [character :: rest]
  | _ => ended

def lines (text : String) : List String :=
  (lineCharacters text.toList).map String.ofList

/-- What follows `lead` at the start of the characters, if they start so. -/
def afterStart? : List Char → List Char → Option (List Char)
  | [], characters => some characters
  | _ :: _, [] => none
  | wanted :: lead, character :: rest =>
    if wanted = character then afterStart? lead rest else none

/-- The characters before and after the first occurrence of `separator`. -/
def splitOnce? (separator : List Char) : List Char → Option (List Char × List Char)
  | [] => (afterStart? separator []).map fun rest => ([], rest)
  | character :: rest =>
    match afterStart? separator (character :: rest) with
    | some remainder => some ([], remainder)
    | none => (splitOnce? separator rest).map fun (before, after) => (character :: before, after)

/-- What follows `lead` at the start of the text, if it starts so. -/
def stripStart? (lead text : String) : Option String :=
  (afterStart? lead.toList text.toList).map String.ofList

/-- What stands before `tail` at the end of the text, if it ends so. -/
def stripEnd? (tail text : String) : Option String :=
  (afterStart? tail.toList.reverse text.toList.reverse).map fun rest => String.ofList rest.reverse

/-- The texts before and after the first occurrence of `separator`. -/
def splitOnceAt? (separator text : String) : Option (String × String) :=
  (splitOnce? separator.toList text.toList).map fun (before, after) =>
    (String.ofList before, String.ofList after)

/-- The text without any number of one character at its end. -/
def dropAtEnd (unwanted : Char) (text : String) : String :=
  String.ofList (text.toList.reverse.dropWhile (· == unwanted)).reverse

/-- The text without any number of one character at either end. -/
def dropAtEnds (unwanted : Char) (text : String) : String :=
  dropAtEnd unwanted (String.ofList (text.toList.dropWhile (· == unwanted)))

end Text

end OrmCode
