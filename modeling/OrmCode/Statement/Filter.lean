import OrmCode.Statement.Comparator

/-!
# Filters

A filter says which rows a statement reads or writes.  Its leaves compare one
column with constants; groups and negations combine them.
-/

namespace OrmCode

/-- A constant.  A number keeps the text it was written with. -/
inductive Literal
  | string (value : String)
  | number (numeral : String)
  | boolean (value : Bool)
  | null
  deriving DecidableEq, Inhabited

/-- What a column is compared with. -/
inductive Operand
  | single (value : Literal)
  | list (values : List Literal)
  deriving DecidableEq

/-- One column compared with constants. -/
structure Comparison where
  column : String
  comparator : Comparator
  operand : Operand
  deriving DecidableEq

/-- How the operands of a group are joined. -/
inductive Connective
  | conjunction
  | disjunction
  deriving DecidableEq

/-- A condition on the rows of one table. -/
inductive Filter
  | comparison (leaf : Comparison)
  | group (connective : Connective) (operands : List Filter)
  | negation (operand : Filter)

namespace Filter

def compare (column : String) (comparator : Comparator) (value : Literal) : Filter :=
  comparison ⟨column, comparator, .single value⟩

/-- The comparisons of a filter from left to right. -/
def leaves : Filter → List Comparison
  | comparison leaf => [leaf]
  | group _ operands => leavesOfAll operands
  | negation operand => operand.leaves
where
  /-- The comparisons of several filters from left to right. -/
  leavesOfAll : List Filter → List Comparison
    | [] => []
    | operand :: operands => operand.leaves ++ leavesOfAll operands

/-- The number of comparisons in a filter. -/
def leafCount : Filter → Nat
  | comparison _ => 1
  | group _ operands => leafCountOfAll operands
  | negation operand => operand.leafCount
where
  /-- The number of comparisons in several filters together. -/
  leafCountOfAll : List Filter → Nat
    | [] => 0
    | operand :: operands => operand.leafCount + leafCountOfAll operands

end Filter

end OrmCode
