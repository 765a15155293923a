import OrmCode.Proofs.Meaning.Condition
import OrmCode.Proofs.Statement.Comparator
import OrmCode.Proofs.Statement.Filter

/-!
# The form of lowered filters

A filter that a condition is lowered to has a form that no renderer has to check: its groups
have two operands at least, and each of its comparisons fits its operator.  It has one
comparison for each predicate of the condition, and two for a range.
-/

namespace OrmCode

/-- An operator and what it compares with fit: a list for IN, NULL for IS, and one constant for
everything else.  A token that is kept stands for no known operator. -/
structure Comparison.IsWellFormed (leaf : Comparison) : Prop where
  list_iff : (∃ values, leaf.operand = .list values) ↔
    leaf.comparator = .among ∨ leaf.comparator = .notAmong
  null : leaf.comparator = .identical ∨ leaf.comparator = .notIdentical →
    leaf.operand = .single .null
  unknown : ∀ token, leaf.comparator = .other token → Comparator.ofSql token = .other token

/-- Every group of a filter has two operands at least, and every comparison fits its operator,
at any depth. -/
inductive Filter.IsWellFormed : Filter → Prop
  | comparison {leaf : Comparison} (fits : leaf.IsWellFormed) : IsWellFormed (.comparison leaf)
  | group {connective : Connective} {operands : List Filter} (several : 2 ≤ operands.length)
    (each : ∀ operand ∈ operands, IsWellFormed operand) :
    IsWellFormed (.group connective operands)
  | negation {operand : Filter} (inner : IsWellFormed operand) : IsWellFormed (.negation operand)

namespace Filter

/-- There is no group to be replaced by its only operand. -/
theorem IsWellFormed.collapsed_eq {filter : Filter} (wellFormed : filter.IsWellFormed) :
    filter.collapsed = filter := by
  induction wellFormed with
  | comparison fits => rw [collapsed]
  | group several each induction =>
      rw [collapsed, List.map_congr_left induction, List.map_id']
      unfold groupOf
      split
      · simp at several
      · rfl
  | negation inner induction => rw [collapsed, induction]

end Filter

namespace Sql

/-- Whether an operator between two operands is spelled as one that takes a list or NULL. -/
def BinaryOperator.IsTest (operator : BinaryOperator) : Prop :=
  Text.upper (Comparator.normalized operator.write) ∈ ["IN", "NOT IN", "IS", "IS NOT"]

instance (operator : BinaryOperator) : Decidable operator.IsTest :=
  inferInstanceAs (Decidable (_ ∈ _))

namespace Expr

/-- The predicates that AND, OR, NOT and parentheses make a condition of, from left to right. -/
def predicates : Expr → List Expr
  | nested inner => inner.predicates
  | not operand => operand.predicates
  | binary .and left right => left.predicates ++ right.predicates
  | binary .or left right => left.predicates ++ right.predicates
  | expression => [expression]

/-- The number of comparisons that a predicate stands for: a range has two bounds. -/
def comparisonCount : Expr → Nat
  | between _ _ _ _ => 2
  | _ => 1

theorem predicates_binary {operator : BinaryOperator} (notAnd : operator ≠ .and)
    (notOr : operator ≠ .or) (left right : Expr) :
    (binary operator left right).predicates = [binary operator left right] := by
  cases operator with
  | and => exact absurd rfl notAnd
  | or => exact absurd rfl notOr
  | _ => rfl

end Expr

end Sql

namespace Lowering

open Sql (Expr)

variable {scope : Scope}

/-- One constant fits every operator that takes neither a list nor NULL. -/
theorem isWellFormed_compare {column : String} {comparator : Comparator} {value : Literal}
    (noTest : comparator ∉ [.among, .notAmong, .identical, .notIdentical])
    (unknown : ∀ token, comparator = .other token → Comparator.ofSql token = .other token) :
    (Filter.compare column comparator value).IsWellFormed := by
  simp only [List.mem_cons, List.not_mem_nil, or_false, not_or] at noTest
  obtain ⟨notAmong, notNotAmong, notIdentical, notNotIdentical⟩ := noTest
  exact .comparison
    { list_iff := iff_of_false nofun fun test => test.elim notAmong notNotAmong
      null := fun test => absurd test (not_or.mpr ⟨notIdentical, notNotIdentical⟩)
      unknown := unknown }

theorem not_mem_of_not_isTest {operator : Sql.BinaryOperator} (plain : ¬operator.IsTest) :
    Comparator.ofSql operator.write ∉ [.among, .notAmong, .identical, .notIdentical] := by
  simp only [Sql.BinaryOperator.IsTest, List.mem_cons, List.not_mem_nil, or_false, not_or]
    at plain ⊢
  obtain ⟨notIn, notNotIn, notIs, notIsNot⟩ := plain
  exact ⟨Comparator.ofSql_ne_of_spelled_ne rfl (by decide) notIn,
    Comparator.ofSql_ne_of_spelled_ne rfl (by decide) notNotIn,
    Comparator.ofSql_ne_of_spelled_ne rfl (by decide) notIs,
    Comparator.ofSql_ne_of_spelled_ne rfl (by decide) notIsNot⟩

/-- What is compared with one constant has one comparison. -/
theorem leafCount_of_comparison {subject constant : Expr} {comparator : Comparator}
    {filter : Filter} (lowered : comparison scope subject comparator constant = .ok filter) :
    filter.leafCount = 1 := by
  obtain ⟨column, value, -, -, rfl⟩ := Expr.comparison_eq_ok lowered
  rfl

theorem isWellFormed_of_comparison {subject constant : Expr} {comparator : Comparator}
    {filter : Filter} (lowered : comparison scope subject comparator constant = .ok filter)
    (noTest : comparator ∉ [.among, .notAmong, .identical, .notIdentical])
    (unknown : ∀ token, comparator = .other token → Comparator.ofSql token = .other token) :
    filter.IsWellFormed := by
  obtain ⟨column, value, -, -, rfl⟩ := Expr.comparison_eq_ok lowered
  exact isWellFormed_compare noTest unknown

section Groups

variable {connective : Connective} {left right expression : Expr} {first second filter : Filter}

/-- What a well-formed filter adds to a group is something, and well formed. -/
theorem isWellFormed_operands (connective : Connective) (expression : Expr)
    (wellFormed : filter.IsWellFormed) :
    1 ≤ (operands connective expression filter).length ∧
      ∀ operand ∈ operands connective expression filter, operand.IsWellFormed := by
  unfold operands
  split
  · cases wellFormed with
    | comparison fits => exact ⟨Nat.le_refl 1, List.forall_mem_singleton.mpr (.comparison fits)⟩
    | group several each => exact ⟨Nat.le_of_succ_le several, each⟩
    | negation inner => exact ⟨Nat.le_refl 1, List.forall_mem_singleton.mpr (.negation inner)⟩
  · exact ⟨Nat.le_refl 1, List.forall_mem_singleton.mpr wellFormed⟩

/-- Two sides of a connective make a group of two operands at least. -/
theorem isWellFormed_joined (wellFormed : first.IsWellFormed)
    (wellFormedSecond : second.IsWellFormed) :
    (Filter.group connective
      (operands connective left first ++ operands connective right second)).IsWellFormed := by
  obtain ⟨some, each⟩ := isWellFormed_operands connective left wellFormed
  obtain ⟨someMore, eachMore⟩ := isWellFormed_operands connective right wellFormedSecond
  refine .group ?_ (List.forall_mem_append.mpr ⟨each, eachMore⟩)
  rw [List.length_append]
  omega

/-- Two sides of a connective have their comparisons together. -/
theorem leafCount_joined :
    (Filter.group connective
      (operands connective left first ++ operands connective right second)).leafCount =
      first.leafCount + second.leafCount := by
  rw [← Filter.length_leaves, Filter.leaves_group, List.flatMap_append,
    flatMap_operands Filter.leaves_group, flatMap_operands Filter.leaves_group,
    List.length_append, Filter.length_leaves, Filter.length_leaves]

end Groups

/-- A range is a group of its two bounds. -/
theorem isWellFormed_range (column : String) (least greatest : Literal) :
    (Filter.group .conjunction [.compare column .atLeast least,
      .compare column .atMost greatest]).IsWellFormed := by
  have notBelow : (Filter.compare column .atLeast least).IsWellFormed :=
    isWellFormed_compare (by decide) nofun
  have notAbove : (Filter.compare column .atMost greatest).IsWellFormed :=
    isWellFormed_compare (by decide) nofun
  exact .group (Nat.le_refl 2)
    (List.forall_mem_cons.mpr ⟨notBelow, List.forall_mem_singleton.mpr notAbove⟩)

/-- A condition without an operator that is spelled as a test is lowered to a well-formed
filter. -/
theorem isWellFormed_of_filter {expression : Expr} {filter : Filter}
    (lowered : Lowering.filter scope expression = .ok filter)
    (plain : ∀ operator left right, .binary operator left right ∈ expression.predicates →
      ¬operator.IsTest) : filter.IsWellFormed := by
  fun_induction Lowering.filter scope expression generalizing filter with
  | case1 inner induction => exact induction lowered plain
  | case2 operand induction =>
      obtain ⟨inner, found, same⟩ := Outcome.bind_eq_ok.mp lowered
      obtain rfl := Except.ok.inj same
      exact .negation (induction found plain)
  | case3 left right leftInduction rightInduction
  | case4 left right leftInduction rightInduction =>
      obtain ⟨first, leftLowered, rest⟩ := Outcome.bind_eq_ok.mp lowered
      obtain ⟨second, rightLowered, same⟩ := Outcome.bind_eq_ok.mp rest
      obtain rfl := Except.ok.inj same
      exact isWellFormed_joined
        (leftInduction leftLowered fun operator first second member =>
          plain operator first second (List.mem_append_left _ member))
        (rightInduction rightLowered fun operator first second member =>
          plain operator first second (List.mem_append_right _ member))
  | case5 operator left right notAnd notOr arithmetic => cases lowered
  | case6 operator left right notAnd notOr arithmetic =>
      have inside : .binary operator left right ∈ (Expr.binary operator left right).predicates := by
        rw [Expr.predicates_binary notAnd notOr]
        exact List.mem_singleton_self _
      exact isWellFormed_of_comparison lowered
        (not_mem_of_not_isTest (plain operator left right inside))
        fun token written => Comparator.ofSql_of_eq_other written
  | case7 kind isNegated any subject pattern escape? =>
      refine isWellFormed_of_comparison lowered ?_ fun token written => ?_
      · cases kind <;> cases isNegated <;> decide
      · rw [Expr.patternComparator_eq_ofSql] at written
        exact Comparator.ofSql_of_eq_other written
  | case8 isNegated subject items =>
      obtain ⟨values, -, rest⟩ := Outcome.bind_eq_ok.mp lowered
      obtain ⟨column, -, same⟩ := Outcome.bind_eq_ok.mp rest
      obtain rfl := Except.ok.inj same
      refine .comparison ⟨iff_of_true ⟨values, rfl⟩ ?_, ?_, ?_⟩ <;> cases isNegated <;> simp
  | case9 isNegated subject low high =>
      obtain ⟨column, -, rest⟩ := Outcome.bind_eq_ok.mp lowered
      obtain ⟨least, -, rest⟩ := Outcome.bind_eq_ok.mp rest
      obtain ⟨greatest, -, same⟩ := Outcome.bind_eq_ok.mp rest
      obtain rfl := Except.ok.inj same
      have range := isWellFormed_range column least greatest
      cases isNegated with
      | false => exact range
      | true => exact .negation range
  | case10 isNegated subject =>
      obtain ⟨column, -, same⟩ := Outcome.bind_eq_ok.mp lowered
      obtain rfl := Except.ok.inj same
      refine .comparison ⟨iff_of_false (by simp) ?_, fun _ => rfl, ?_⟩ <;> cases isNegated <;> simp
  | case11 expression => cases lowered

/-- A condition is lowered to one comparison for each of its predicates, and two for a range. -/
theorem leafCount_of_filter {expression : Expr} {filter : Filter}
    (lowered : Lowering.filter scope expression = .ok filter) :
    filter.leafCount = (expression.predicates.map Expr.comparisonCount).sum := by
  fun_induction Lowering.filter scope expression generalizing filter with
  | case1 inner induction => exact induction lowered
  | case2 operand induction =>
      obtain ⟨inner, found, same⟩ := Outcome.bind_eq_ok.mp lowered
      obtain rfl := Except.ok.inj same
      rw [Filter.leafCount_negation, induction found]
      rfl
  | case3 left right leftInduction rightInduction
  | case4 left right leftInduction rightInduction =>
      obtain ⟨first, leftLowered, rest⟩ := Outcome.bind_eq_ok.mp lowered
      obtain ⟨second, rightLowered, same⟩ := Outcome.bind_eq_ok.mp rest
      obtain rfl := Except.ok.inj same
      rw [leafCount_joined, leftInduction leftLowered, rightInduction rightLowered,
        Expr.predicates, List.map_append, List.sum_append]
  | case5 operator left right notAnd notOr arithmetic => cases lowered
  | case6 operator left right notAnd notOr arithmetic =>
      rw [leafCount_of_comparison lowered, Expr.predicates_binary notAnd notOr]
      rfl
  | case7 kind isNegated any subject pattern escape? => exact leafCount_of_comparison lowered
  | case8 isNegated subject items =>
      obtain ⟨values, -, rest⟩ := Outcome.bind_eq_ok.mp lowered
      obtain ⟨column, -, same⟩ := Outcome.bind_eq_ok.mp rest
      obtain rfl := Except.ok.inj same
      rfl
  | case9 isNegated subject low high =>
      obtain ⟨column, -, rest⟩ := Outcome.bind_eq_ok.mp lowered
      obtain ⟨least, -, rest⟩ := Outcome.bind_eq_ok.mp rest
      obtain ⟨greatest, -, same⟩ := Outcome.bind_eq_ok.mp rest
      obtain rfl := Except.ok.inj same
      cases isNegated <;> rfl
  | case10 isNegated subject =>
      obtain ⟨column, -, same⟩ := Outcome.bind_eq_ok.mp lowered
      obtain rfl := Except.ok.inj same
      rfl
  | case11 expression => cases lowered

/-- A condition whose operators are symbols is lowered to a filter in which, at any depth, every
group has two operands at least, a list stands exactly after IN and NOT IN, nothing but NULL
after IS and IS NOT, and every token that is kept is that of no known operator.  Hence no group
is ever replaced by its only operand.  The filter has one comparison for each predicate of the
condition and two for each range. -/
theorem filter_wellFormed {expression : Expr} {filter : Filter}
    (plain : ∀ operator left right, .binary operator left right ∈ expression.predicates →
      ¬operator.IsTest)
    (lowered : Lowering.filter scope expression = .ok filter) :
    filter.IsWellFormed ∧ filter.collapsed = filter ∧
      filter.leafCount = (expression.predicates.map Expr.comparisonCount).sum := by
  have wellFormed := isWellFormed_of_filter lowered plain
  exact ⟨wellFormed, wellFormed.collapsed_eq, leafCount_of_filter lowered⟩

/-- The mixed condition has five predicates, one of them a range. -/
theorem wellFormed_mixedFilter :
    (∀ operator left right, .binary operator left right ∈ Expr.mixedCondition.predicates →
      ¬operator.IsTest) ∧
    Lowering.filter { table := "users", alias? := some "u" } Expr.mixedCondition =
      .ok Expr.mixedFilter ∧
    Expr.mixedFilter.IsWellFormed ∧ Expr.mixedFilter.collapsed = Expr.mixedFilter ∧
    Expr.mixedFilter.leafCount = 6 := by
  have plain : ∀ operator left right,
      .binary operator left right ∈ Expr.mixedCondition.predicates → ¬operator.IsTest := by
    intro operator left right member
    obtain ⟨rfl, -, -⟩ : operator = .other "=" ∧ _ ∧ _ := by
      simpa [Expr.mixedCondition, Expr.predicates] using member
    decide
  have lowered : Lowering.filter { table := "users", alias? := some "u" } Expr.mixedCondition =
      .ok Expr.mixedFilter := rfl
  exact ⟨plain, lowered, filter_wellFormed plain lowered⟩

end Lowering

end OrmCode
