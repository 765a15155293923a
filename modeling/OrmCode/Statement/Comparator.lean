import OrmCode.Text.Blank
import OrmCode.Text.LetterCase

/-!
# Comparison operators

Twelve operators have a spelling in both targets.  Every other token is kept as
it was written, with its blanks reduced to single spaces.
-/

namespace OrmCode

/-- The operator between a column and what it is compared with. -/
inductive Comparator
  | equal
  | different
  | greater
  | atLeast
  | less
  | atMost
  | like
  | notLike
  | among
  | notAmong
  | identical
  | notIdentical
  | other (token : String)
  deriving DecidableEq, Inhabited

namespace Comparator

/-- The token with its words separated by single spaces. -/
def normalized (token : String) : String :=
  " ".intercalate (Text.words token)

/-- The operator written by a normalized token in capitals, if it is a known one. -/
def ofCapitals? : String → Option Comparator
  | "=" | "==" => some equal
  | "!=" | "<>" => some different
  | ">" => some greater
  | ">=" => some atLeast
  | "<" => some less
  | "<=" => some atMost
  | "LIKE" => some like
  | "NOT LIKE" => some notLike
  | "IN" => some among
  | "NOT IN" => some notAmong
  | "IS" => some identical
  | "IS NOT" => some notIdentical
  | _ => none

/-- The operator written by a token, whatever its letter case and blanks. -/
def ofSql (token : String) : Comparator :=
  (ofCapitals? (Text.upper (normalized token))).getD (other (normalized token))

/-- The spelling of an operator in SQL. -/
def sql : Comparator → String
  | equal => "="
  | different => "!="
  | greater => ">"
  | atLeast => ">="
  | less => "<"
  | atMost => "<="
  | like => "LIKE"
  | notLike => "NOT LIKE"
  | among => "IN"
  | notAmong => "NOT IN"
  | identical => "IS"
  | notIdentical => "IS NOT"
  | other token => token

/-- Whether the operator is a token without a meaning of its own. -/
def isOther : Comparator → Bool
  | other _ => true
  | _ => false

end Comparator

end OrmCode
