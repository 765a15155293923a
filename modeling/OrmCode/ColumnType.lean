import OrmCode.Text.Blank
import OrmCode.Text.LetterCase

/-!
# Column types

The type of a column is a name, with lengths or precisions between the first
opening and the last closing parenthesis.  A table gives each known name its
counterpart in a target, which takes the lengths over if it is sized.
-/

namespace OrmCode

/-- A column type taken apart: its name in small letters with single spaces,
and the whole numbers among its arguments. -/
structure ColumnType where
  name : String
  arguments : List String
  deriving DecidableEq

namespace ColumnType

/-- The name in small letters with single spaces. -/
def normalizedName (name : String) : String :=
  Text.lower (" ".intercalate (Text.words name))

/-- A text of one or more decimal digits. -/
def isDigits (text : String) : Bool :=
  !text.isEmpty && text.toList.all Char.isDigit

/-- What stands before the first opening, between it and the last closing, and
after the last closing parenthesis, if they come in this order. -/
def span? (written : List Char) : Option (List Char × List Char × List Char) :=
  let before := written.takeWhile (· != '(')
  match written.dropWhile (· != '(') with
  | [] => none
  | _ :: rest =>
    match rest.reverse.dropWhile (· != ')') with
    | [] => none
    | _ :: reversed => some (before, reversed.reverse, (rest.reverse.takeWhile (· != ')')).reverse)

/-- The whole numbers among arguments separated by commas. -/
def numericArguments (written : List Char) : List String :=
  ((Text.splitCharacters (· == ',') written).map fun piece =>
    String.ofList (Text.trimmedCharacters piece)).filter isDigits

def ofText (written : String) : ColumnType :=
  match span? written.toList with
  | some (before, between, after) =>
    ⟨normalizedName (String.ofList (before ++ ' ' :: after)), numericArguments between⟩
  | none => ⟨normalizedName written, []⟩

end ColumnType

structure TargetType where
  name : String
  sized : Bool := false
  deriving DecidableEq

namespace TargetType

/-- The target type with the lengths it takes over. -/
def render (target : TargetType) (arguments : List String) : String :=
  if target.sized && !arguments.isEmpty then
    target.name ++ "(" ++ ", ".intercalate arguments ++ ")"
  else
    target.name

end TargetType

/-- What a column type becomes, and whether its name was known. -/
structure MappedType where
  rendered : String
  known : Bool
  deriving DecidableEq

/-- The counterparts of the known column types, and the one of all others. -/
structure TypeTable where
  entries : List (String × TargetType)
  fallback : TargetType

namespace TypeTable

/-- The counterpart of a name written in any letter case between blanks. -/
def get? (table : TypeTable) (name : String) : Option TargetType :=
  table.entries.lookup (Text.lower (Text.trim name))

/-- The counterpart of the whole name of a type or else of its first word. -/
def find? (table : TypeTable) (name : String) : Option TargetType :=
  table.get? name <|> (Text.words name).head?.bind table.get?

def map (table : TypeTable) (written : String) : MappedType :=
  let parts := ColumnType.ofText written
  match table.find? parts.name with
  | some target => ⟨target.render parts.arguments, true⟩
  | none => ⟨table.fallback.name, false⟩

end TypeTable

end OrmCode
