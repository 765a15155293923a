import OrmCode.Statement.Filter

/-!
# What filters mean

A condition on a row is true, false or unknown.  Groups and negations of a
filter combine these values as SQL does, whatever its comparisons mean.
-/

namespace OrmCode

/-- The value of a condition on a row. -/
inductive Truth
  | yes
  | no
  | unknown
  deriving DecidableEq

namespace Truth

/-- The value of two conditions joined by AND. -/
def both : Truth → Truth → Truth
  | no, _ => no
  | yes, second => second
  | unknown, no => no
  | unknown, _ => unknown

/-- The value of two conditions joined by OR. -/
def either : Truth → Truth → Truth
  | yes, _ => yes
  | no, second => second
  | unknown, yes => yes
  | unknown, _ => unknown

/-- The value of a condition after NOT. -/
def negated : Truth → Truth
  | yes => no
  | no => yes
  | unknown => unknown

/-- The value of two conditions joined by a connective. -/
def joined : Connective → Truth → Truth → Truth
  | .conjunction => both
  | .disjunction => either

/-- The value of no conditions joined by a connective. -/
def neutral : Connective → Truth
  | .conjunction => yes
  | .disjunction => no

/-- The value of several conditions joined by a connective. -/
def joinedAll (connective : Connective) (values : List Truth) : Truth :=
  values.foldr (joined connective) (neutral connective)

theorem joined_assoc (connective : Connective) (first second third : Truth) :
    joined connective (joined connective first second) third =
      joined connective first (joined connective second third) := by
  cases connective <;> cases first <;> cases second <;> cases third <;> rfl

@[simp] theorem neutral_joined (connective : Connective) (value : Truth) :
    joined connective (neutral connective) value = value := by
  cases connective <;> rfl

@[simp] theorem joined_neutral (connective : Connective) (value : Truth) :
    joined connective value (neutral connective) = value := by
  cases connective <;> cases value <;> rfl

@[simp] theorem joinedAll_nil (connective : Connective) :
    joinedAll connective [] = neutral connective := rfl

@[simp] theorem joinedAll_cons (connective : Connective) (value : Truth) (values : List Truth) :
    joinedAll connective (value :: values) =
      joined connective value (joinedAll connective values) := rfl

/-- Joining does not depend on how the conditions are grouped. -/
theorem joinedAll_append (connective : Connective) (first second : List Truth) :
    joinedAll connective (first ++ second) =
      joined connective (joinedAll connective first) (joinedAll connective second) := by
  induction first with
  | nil => simp
  | cons value values induction =>
      rw [List.cons_append, joinedAll_cons, joinedAll_cons, induction, joined_assoc]

end Truth

/-- What comparators mean for values of a column. -/
abbrev Meaning (Value : Type) := Comparator → Value → Operand → Truth

/-- The values of a row by the names of their columns. -/
abbrev Row (Value : Type) := String → Value

namespace Filter

variable {Value : Type}

/-- The value of a filter on a row. -/
def truth (meaning : Meaning Value) (row : Row Value) : Filter → Truth
  | comparison leaf => meaning leaf.comparator (row leaf.column) leaf.operand
  | group connective operands => Truth.joinedAll connective (truths meaning row operands)
  | negation operand => (operand.truth meaning row).negated
where
  /-- The values of several filters on a row. -/
  truths (meaning : Meaning Value) (row : Row Value) : List Filter → List Truth
    | [] => []
    | operand :: operands => operand.truth meaning row :: truths meaning row operands

@[simp] theorem truths_eq_map (meaning : Meaning Value) (row : Row Value)
    (operands : List Filter) :
    truth.truths meaning row operands = operands.map (truth meaning row) := by
  induction operands with
  | nil => rfl
  | cons operand operands induction =>
      rw [truth.truths, induction, List.map_cons]

theorem truth_group (meaning : Meaning Value) (row : Row Value) (connective : Connective)
    (operands : List Filter) :
    (group connective operands).truth meaning row =
      Truth.joinedAll connective (operands.map (truth meaning row)) := by
  rw [truth, truths_eq_map]

end Filter

end OrmCode
