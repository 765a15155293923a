import Mathlib.Algebra.GroupWithZero.Nat
import Mathlib.Data.List.Basic
import OrmCode.Statement.Basic
import OrmCode.Statement.Rendering

/-!
# Filters and constants of statements

Generated code keeps the comparisons of a filter and its constants.  It does not
keep the group around a single operand.
-/

namespace OrmCode

/-- The constants that a column is compared with. -/
def Operand.literals : Operand → List Literal
  | single value => [value]
  | list values => values

namespace Filter

/-- What holds of all comparisons, of each group if it holds of its operands and of
each negation if it holds of its operand holds of all filters. -/
@[elab_as_elim, induction_eliminator]
theorem induction {motive : Filter → Prop} (comparison : ∀ leaf, motive (comparison leaf))
    (group : ∀ connective operands, (∀ operand ∈ operands, motive operand) →
      motive (group connective operands))
    (negation : ∀ operand, motive operand → motive (negation operand)) : ∀ filter, motive filter
  | .comparison leaf => comparison leaf
  | .group connective operands =>
    group connective operands fun operand _ => induction comparison group negation operand
  | .negation operand => negation operand (induction comparison group negation operand)

/-- The group of some operands, or the only one of them. -/
def groupOf (connective : Connective) : List Filter → Filter
  | [only] => only
  | operands => group connective operands

/-- The filter with every group of one operand replaced by that operand. -/
def collapsed : Filter → Filter
  | comparison leaf => comparison leaf
  | group connective operands => groupOf connective (operands.map collapsed)
  | negation operand => negation operand.collapsed

/-- The constants of a filter from left to right. -/
def literals (filter : Filter) : List Literal :=
  filter.leaves.flatMap fun leaf => leaf.operand.literals

theorem leavesOfAll_eq_flatMap (operands : List Filter) :
    leaves.leavesOfAll operands = operands.flatMap leaves := by
  induction operands with
  | nil => rfl
  | cons operand operands induction =>
      rw [leaves.leavesOfAll, List.flatMap_cons, induction]

theorem leaves_group (connective : Connective) (operands : List Filter) :
    (group connective operands).leaves = operands.flatMap leaves := by
  rw [leaves, leavesOfAll_eq_flatMap]

theorem leaves_groupOf (connective : Connective) (operands : List Filter) :
    (groupOf connective operands).leaves = operands.flatMap leaves := by
  unfold groupOf
  split
  · exact (List.flatMap_singleton _ _).symm
  · exact leaves_group _ _

/-- Replacing groups of one operand keeps the comparisons. -/
theorem leaves_collapsed (filter : Filter) : filter.collapsed.leaves = filter.leaves := by
  induction filter with
  | comparison leaf => rw [collapsed]
  | group connective operands induction =>
      rw [collapsed, leaves_groupOf, leaves_group, List.flatMap_map]
      exact List.flatMap_congr induction
  | negation operand induction => rw [collapsed, leaves, leaves, induction]

theorem leafCount_group (connective : Connective) (operands : List Filter) :
    (group connective operands).leafCount = (operands.map leafCount).sum := by
  rw [leafCount]
  induction operands with
  | nil => rfl
  | cons operand operands induction =>
      rw [leafCount.leafCountOfAll, List.map_cons, List.sum_cons, induction]

theorem leafCount_negation (operand : Filter) :
    (negation operand).leafCount = operand.leafCount := by
  rw [leafCount]

/-- The comparisons are as many as are counted. -/
theorem length_leaves (filter : Filter) : filter.leaves.length = filter.leafCount := by
  induction filter with
  | comparison leaf => rfl
  | group connective operands induction =>
      rw [leaves_group, leafCount_group, List.length_flatMap, List.map_congr_left induction]
  | negation operand induction => rw [leaves, leafCount_negation, induction]

theorem literals_comparison (leaf : Comparison) :
    (comparison leaf).literals = leaf.operand.literals := by
  rw [literals, leaves, List.flatMap_singleton]

theorem literals_group (connective : Connective) (operands : List Filter) :
    (group connective operands).literals = operands.flatMap literals := by
  rw [literals, leaves_group, List.flatMap_assoc]
  rfl

theorem literals_negation (operand : Filter) : (negation operand).literals = operand.literals := by
  rw [literals, leaves, literals]

theorem literals_collapsed (filter : Filter) : filter.collapsed.literals = filter.literals := by
  rw [literals, literals, leaves_collapsed]

theorem renderAll_eq_mapM {Failure : Type} (renderer : Renderer Failure)
    (operands : List Filter) :
    render.renderAll renderer operands = operands.mapM fun operand => operand.render renderer := by
  induction operands with
  | nil => rfl
  | cons operand operands induction =>
      rw [render.renderAll, List.mapM_cons, induction]

end Filter

/-- Whether a text is a numeral of SQL. -/
def Text.isNumeral (text : String) : Bool :=
  (text.toList.all fun character =>
      character.isDigit || ['.', 'e', 'E', '+', '-'].contains character) &&
    text.toList.head?.any fun first => first.isDigit || ['.', '-'].contains first

/-- Whether a constant is no number or a numeral of SQL. -/
def Literal.isPlain : Literal → Bool
  | number numeral => Text.isNumeral numeral
  | _ => true

namespace Statement

def filter? : Statement → Option Filter
  | select selected => selected.filter?
  | update updated => updated.filter?
  | delete deleted => deleted.filter?
  | create _ | insert _ | unsupported _ => none

/-- The constants of a statement beside those of its filter. -/
def values : Statement → List Literal
  | insert inserted => inserted.rows.flatten
  | update updated =>
    updated.assignments.map fun assignment =>
      match assignment.value with
      | .literal value => value
      | .changed _ _ amount => amount
  | create _ | select _ | delete _ | unsupported _ => []

/-- Whether every number of a statement is a numeral of SQL. -/
def isPlain (statement : Statement) : Bool :=
  (statement.values ++ statement.filter?.toList.flatMap Filter.literals).all Literal.isPlain

end Statement

end OrmCode
