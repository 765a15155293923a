import OrmCode.Lowering.Constant
import OrmCode.Lowering.Scope

/-!
# Filters of conditions

A condition becomes a filter of the same meaning.  Operands joined by the same
connective without parentheses form one group, however deeply they are nested.
-/

namespace OrmCode

namespace Lowering

/-- The connective that joins the two sides of an expression. -/
def connective? : Sql.Expr → Option Connective
  | .binary .and _ _ => some .conjunction
  | .binary .or _ _ => some .disjunction
  | _ => none

/-- The operands that an expression with the given filter adds to a group: those
of its own group if that is joined by the same connective. -/
def operands (connective : Connective) (expression : Sql.Expr) (filter : Filter) : List Filter :=
  if connective? expression = some connective then
    match filter with
    | .group _ inner => inner
    | other => [other]
  else
    [filter]

/-- What is read of a group operand by operand is read of the operands that it adds. -/
theorem flatMap_operands {Item : Type} {read : Filter → List Item}
    (reads : ∀ connective operands, read (.group connective operands) = operands.flatMap read)
    (connective : Connective) (expression : Sql.Expr) (filter : Filter) :
    (operands connective expression filter).flatMap read = read filter := by
  unfold operands
  split
  · split
    · exact (reads _ _).symm
    · exact List.flatMap_singleton _ _
  · exact List.flatMap_singleton _ _

/-- The comparison of a column with one constant. -/
def comparison (scope : Scope) (subject : Sql.Expr) (comparator : Comparator)
    (value : Sql.Expr) : Except Unsupported Filter := do
  let column ← scope.column subject
  return .compare column comparator (← literal value)

def patternComparator : Sql.PatternKind → Bool → Comparator
  | .like, negated => if negated then .notLike else .like
  | .ilike, negated => .ofSql (Sql.negation negated ++ "ILIKE")

def filter (scope : Scope) : Sql.Expr → Except Unsupported Filter
  | .nested inner => filter scope inner
  | .not operand => do
    return .negation (← filter scope operand)
  | .binary .and left right => do
    let first ← filter scope left
    let second ← filter scope right
    return .group .conjunction
      (operands .conjunction left first ++ operands .conjunction right second)
  | .binary .or left right => do
    let first ← filter scope left
    let second ← filter scope right
    return .group .disjunction
      (operands .disjunction left first ++ operands .disjunction right second)
  | .binary operator left right =>
    if operator.isArithmetic then
      .error (.arithmeticFilter (Sql.Expr.binary operator left right).write)
    else
      comparison scope left (.ofSql operator.write) right
  -- Neither ANY nor the character after ESCAPE is looked at.
  | .like kind negated _ subject pattern _ =>
    comparison scope subject (patternComparator kind negated) pattern
  | .inList negated subject items => do
    let values ← items.mapM literal
    let column ← scope.column subject
    return .comparison ⟨column, if negated then .notAmong else .among, .list values⟩
  | .between negated subject low high => do
    let column ← scope.column subject
    let least ← literal low
    let greatest ← literal high
    let range := Filter.group .conjunction
      [.compare column .atLeast least, .compare column .atMost greatest]
    return if negated then .negation range else range
  | .isNull negated subject => do
    let column ← scope.column subject
    return .compare column (if negated then .notIdentical else .identical) .null
  | expression => .error (.filterForm expression.write)

def filter? (scope : Scope) : Option Sql.Expr → Except Unsupported (Option Filter)
  | none => .ok none
  | some condition => (filter scope condition).map some

end Lowering

end OrmCode
