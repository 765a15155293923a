import OrmCode.Lowering.Filter
import OrmCode.Proofs.Meaning.Truth
import OrmCode.Proofs.Outcome
import OrmCode.Text.Lines

/-!
# Lowering keeps the meaning of conditions

A condition of SQL has a value on a row, given what its operators mean.  The
filter that it is lowered to has the same value, and a chain of operands joined
by one connective becomes one group of exactly their filters, in their order.
-/

namespace OrmCode

namespace Sql

/-- The numeral with its sign taken away, or with one put before it. -/
def oppositeNumeral (numeral : String) : String :=
  (Text.stripStart? "-" numeral).getD ("-" ++ numeral)

theorem oppositeNumeral_eq_negated (numeral : String) :
    oppositeNumeral numeral = Lowering.negated numeral := by
  have lead : "-".toList = ['-'] := rfl
  rw [oppositeNumeral, Text.stripStart?, Lowering.negated, lead]
  split
  · next magnitude written =>
      rw [written]
      rfl
  · next unsigned =>
      cases written : numeral.toList with
      | nil => rfl
      | cons first rest =>
          have different : '-' ≠ first := by
            rintro rfl
            exact unsigned rest written
          simp [Text.afterStart?, different]

namespace Expr

/-- The constant that an expression denotes, parentheses and signs included. -/
def constant? : Expr → Option Literal
  | value (.number numeral _) => some (.number numeral)
  | value (.string .single text) => some (.string text)
  | value (.string .double text) => some (.string text)
  | value (.boolean truth) => some (.boolean truth)
  | value .null => some .null
  | minus operand =>
    match operand.constant? with
    | some (.number numeral) => some (.number (oppositeNumeral numeral))
    | _ => none
  | nested inner => inner.constant?
  | _ => none

/-- The column that an expression names, whatever qualifies it. -/
def columnName? : Expr → Option String
  | column name => name.getLast?.map Name.text
  | _ => none

variable {Value : Type}

/-- The value of a column compared by an operator. -/
def compared (meaning : Meaning Value) (row : Row Value) (subject : Expr) (token : String)
    (operand? : Option Operand) : Option Truth := do
  let column ← subject.columnName?
  let operand ← operand?
  return meaning (.ofSql token) (row column) operand

/-- The value of a column compared with one constant. -/
def comparedWith (meaning : Meaning Value) (row : Row Value) (subject : Expr) (token : String)
    (constant : Expr) : Option Truth :=
  subject.compared meaning row token (constant.constant?.map .single)

/-- The value of a condition on a row, if every operator in it is one of those
that conditions are made of.  A pattern with an escape character or with ANY has
a meaning that no comparator stands for. -/
def truth? (meaning : Meaning Value) (row : Row Value) : Expr → Option Truth
  | nested inner => inner.truth? meaning row
  | not operand => (operand.truth? meaning row).map Truth.negated
  | binary .and left right => do
    return (← left.truth? meaning row).both (← right.truth? meaning row)
  | binary .or left right => do
    return (← left.truth? meaning row).either (← right.truth? meaning row)
  | binary operator left right =>
    if operator.isArithmetic then none
    else left.comparedWith meaning row operator.write right
  | like kind negated false subject pattern none =>
    subject.comparedWith meaning row (negation negated ++ kind.write) pattern
  | inList negated subject items =>
    subject.compared meaning row (negation negated ++ "IN")
      ((items.mapM constant?).map .list)
  | between negated subject low high => do
    let notBelow ← subject.comparedWith meaning row ">=" low
    let notAbove ← subject.comparedWith meaning row "<=" high
    let within := notBelow.both notAbove
    return if negated then within.negated else within
  | isNull negated subject =>
    subject.compared meaning row (if negated then "IS NOT" else "IS") (some (.single .null))
  | _ => none

/-- Whether no pattern of a condition has an escape character or ANY. -/
def plainPatterns : Expr → Bool
  | nested inner => inner.plainPatterns
  | not operand => operand.plainPatterns
  | binary _ left right => left.plainPatterns && right.plainPatterns
  | like _ _ any _ _ escape? => !any && escape?.isNone
  | _ => true

/-- The operands that a connective joins without parentheses between them. -/
def chain (connective : Connective) : Expr → List Expr
  | binary operator left right =>
    if Lowering.connective? (binary operator left right) = some connective then
      left.chain connective ++ right.chain connective
    else
      [binary operator left right]
  | expression => [expression]

theorem constant_eq_ok_iff (constant : Sql.Value) (literal : Literal) :
    Lowering.constant constant = .ok literal ↔ (value constant).constant? = some literal := by
  cases constant with
  | string form text => cases form <;> simp [Lowering.constant, constant?]
  | _ => simp [Lowering.constant, constant?]

/-- Lowering finds the constant that an expression denotes, and no other. -/
theorem literal_eq_ok_iff (expression : Expr) (literal : Literal) :
    Lowering.literal expression = .ok literal ↔ expression.constant? = some literal := by
  fun_induction Lowering.literal expression generalizing literal with
  | case1 constant => exact constant_eq_ok_iff constant literal
  | case2 operand induction =>
      rw [Outcome.bind_eq_ok, constant?]
      constructor
      · rintro ⟨inner, found, negated⟩
        rw [(induction inner).mp found]
        cases inner with
        | number numeral =>
            rw [← Except.ok.inj negated]
            simp [oppositeNumeral_eq_negated]
        | _ => simp [throw, throwThe, MonadExceptOf.throw] at negated
      · intro denoted
        split at denoted
        · next numeral found =>
            refine ⟨.number numeral, (induction _).mpr found, ?_⟩
            rw [← Option.some.inj denoted, oppositeNumeral_eq_negated]
            rfl
        · simp at denoted
  | case3 inner induction => exact induction literal
  | case4 expression notValue notMinus notNested =>
      rw [constant?]
      · simp
      all_goals simp_all

theorem columnName?_of_resolve {scope : Lowering.Scope} {name : QualifiedName} {found : String}
    (resolved : scope.resolve name = .ok found) :
    name.getLast?.map Name.text = some found := by
  rw [← List.head?_reverse]
  rw [Lowering.Scope.resolve] at resolved
  split at resolved
  · simp at resolved
  · next only reversed =>
      rw [reversed]
      simpa using resolved
  · next last qualifier others reversed =>
      rw [reversed]
      split at resolved
      · simpa using resolved
      · simp at resolved

theorem columnName?_of_column {scope : Lowering.Scope} {expression : Expr} {found : String}
    (resolved : scope.column expression = .ok found) : expression.columnName? = some found := by
  cases expression with
  | column name => exact columnName?_of_resolve resolved
  | _ => simp [Lowering.Scope.column] at resolved

variable {scope : Lowering.Scope}

theorem comparison_eq_ok {subject constant : Expr} {comparator : Comparator} {filter : Filter}
    (lowered : Lowering.comparison scope subject comparator constant = .ok filter) :
    ∃ column value, subject.columnName? = some column ∧ constant.constant? = some value ∧
      filter = .compare column comparator value := by
  obtain ⟨column, named, rest⟩ := Outcome.bind_eq_ok.mp lowered
  obtain ⟨value, found, same⟩ := Outcome.bind_eq_ok.mp rest
  exact ⟨column, value, columnName?_of_column named, (literal_eq_ok_iff _ _).mp found,
    (Except.ok.inj same).symm⟩

/-- A lowered comparison has the value of the comparison. -/
theorem comparedWith_of_comparison {subject constant : Expr} {token : String} {filter : Filter}
    (lowered : Lowering.comparison scope subject (.ofSql token) constant = .ok filter)
    (meaning : Meaning Value) (row : Row Value) :
    subject.comparedWith meaning row token constant = some (filter.truth meaning row) := by
  obtain ⟨column, value, named, denoted, rfl⟩ := comparison_eq_ok lowered
  simp [comparedWith, compared, named, denoted, Filter.compare, Filter.truth]

theorem patternComparator_eq_ofSql (kind : PatternKind) (isNegated : Bool) :
    Lowering.patternComparator kind isNegated = .ofSql (negation isNegated ++ kind.write) := by
  cases kind <;> cases isNegated <;> decide

/-- What joins two conditions: each of them is lowered, and their operands form one group. -/
theorem filter_binary_of_connective {operator : BinaryOperator} {left right : Expr}
    {connective : Connective} {filter : Filter}
    (joins : Lowering.connective? (binary operator left right) = some connective)
    (lowered : Lowering.filter scope (binary operator left right) = .ok filter) :
    ∃ first second, Lowering.filter scope left = .ok first ∧
      Lowering.filter scope right = .ok second ∧
      filter = .group connective
        (Lowering.operands connective left first ++ Lowering.operands connective right second) := by
  cases operator with
  | and =>
      obtain rfl : Connective.conjunction = connective := Option.some.inj joins
      rw [Lowering.filter] at lowered
      obtain ⟨first, leftLowered, rest⟩ := Outcome.bind_eq_ok.mp lowered
      obtain ⟨second, rightLowered, same⟩ := Outcome.bind_eq_ok.mp rest
      exact ⟨first, second, leftLowered, rightLowered, (Except.ok.inj same).symm⟩
  | or =>
      obtain rfl : Connective.disjunction = connective := Option.some.inj joins
      rw [Lowering.filter] at lowered
      obtain ⟨first, leftLowered, rest⟩ := Outcome.bind_eq_ok.mp lowered
      obtain ⟨second, rightLowered, same⟩ := Outcome.bind_eq_ok.mp rest
      exact ⟨first, second, leftLowered, rightLowered, (Except.ok.inj same).symm⟩
  | _ => simp [Lowering.connective?] at joins

/-- A chain of operands becomes their filters, one for each of them and in their order. -/
theorem mapM_chain_of_filter (connective : Connective) {expression : Expr} {filter : Filter}
    (lowered : Lowering.filter scope expression = .ok filter) :
    (expression.chain connective).mapM (Lowering.filter scope) =
      .ok (Lowering.operands connective expression filter) := by
  -- The chain is taken apart as `chain` does it, which stops at parentheses just as
  -- the lowering does.
  fun_induction chain connective expression generalizing filter with
  | case1 operator left right joins leftInduction rightInduction =>
      obtain ⟨first, second, leftLowered, rightLowered, rfl⟩ :=
        filter_binary_of_connective joins lowered
      rw [List.mapM_append, leftInduction leftLowered, rightInduction rightLowered]
      simp [Lowering.operands, joins, bind, Except.bind, pure, Except.pure]
  | case2 operator left right apart =>
      simp [Lowering.operands, apart, lowered, bind, Except.bind, pure, Except.pure]
  | case3 expression single =>
      have apart : Lowering.connective? expression = none := by
        cases expression with
        | binary operator left right => exact absurd rfl (single operator left right)
        | _ => rfl
      simp [Lowering.operands, apart, lowered, bind, Except.bind, pure, Except.pure]

/-- The operands that a condition adds to a group have its value when they are joined. -/
theorem joinedAll_operands {connective : Connective} {expression : Expr} {filter : Filter}
    (lowered : Lowering.filter scope expression = .ok filter)
    (meaning : Meaning Value) (row : Row Value) :
    Truth.joinedAll connective
        ((Lowering.operands connective expression filter).map (Filter.truth meaning row)) =
      filter.truth meaning row := by
  unfold Lowering.operands
  by_cases joins : Lowering.connective? expression = some connective
  · cases expression with
    | binary operator left right =>
        obtain ⟨first, second, -, -, rfl⟩ := filter_binary_of_connective joins lowered
        rw [if_pos joins]
        exact (Filter.truth_group meaning row connective _).symm
    | _ => simp [Lowering.connective?] at joins
  · rw [if_neg joins]
    simp

/-- Two joined conditions have the value of the group that they are lowered to. -/
theorem joined_of_filter {connective : Connective} {left right : Expr} {first second : Filter}
    (leftLowered : Lowering.filter scope left = .ok first)
    (rightLowered : Lowering.filter scope right = .ok second)
    (meaning : Meaning Value) (row : Row Value) :
    (Filter.group connective (Lowering.operands connective left first ++
        Lowering.operands connective right second)).truth meaning row =
      Truth.joined connective (first.truth meaning row) (second.truth meaning row) := by
  rw [Filter.truth_group, List.map_append, Truth.joinedAll_append,
    joinedAll_operands leftLowered, joinedAll_operands rightLowered]

/-- A range has the value of its two bounds joined. -/
theorem truth_range (meaning : Meaning Value) (row : Row Value) (column : String)
    (least greatest : Literal) :
    (Filter.group .conjunction [.compare column .atLeast least,
        .compare column .atMost greatest]).truth meaning row =
      (meaning .atLeast (row column) (.single least)).both
        (meaning .atMost (row column) (.single greatest)) := by
  rw [Filter.truth_group, List.map_cons, List.map_cons, List.map_nil, Truth.joinedAll_cons,
    Truth.joinedAll_cons, Truth.joinedAll_nil, Truth.joined_neutral]
  rfl

/-- A condition that is lowered has a value on every row, and it is the value of
its filter. -/
theorem truth?_of_filter {expression : Expr} {filter : Filter}
    (lowered : Lowering.filter scope expression = .ok filter)
    (plain : expression.plainPatterns = true) (meaning : Meaning Value) (row : Row Value) :
    expression.truth? meaning row = some (filter.truth meaning row) := by
  -- One case for each form of a condition.  Only the groups need more than their own
  -- operands: a chain that was flattened has the value of the two sides joined.
  fun_induction Lowering.filter scope expression generalizing filter with
  | case1 inner induction => exact induction lowered plain
  | case2 operand induction =>
      obtain ⟨inner, found, same⟩ := Outcome.bind_eq_ok.mp lowered
      obtain rfl := Except.ok.inj same
      rw [truth?, induction found plain]
      rfl
  | case3 left right leftInduction rightInduction
  | case4 left right leftInduction rightInduction =>
      simp only [plainPatterns, Bool.and_eq_true] at plain
      obtain ⟨first, leftLowered, rest⟩ := Outcome.bind_eq_ok.mp lowered
      obtain ⟨second, rightLowered, same⟩ := Outcome.bind_eq_ok.mp rest
      obtain rfl := Except.ok.inj same
      rw [truth?, leftInduction leftLowered plain.1, rightInduction rightLowered plain.2,
        joined_of_filter leftLowered rightLowered]
      rfl
  | case5 operator left right notAnd notOr arithmetic => simp at lowered
  | case6 operator left right notAnd notOr arithmetic =>
      rw [truth?]
      · rw [if_neg arithmetic]
        exact comparedWith_of_comparison lowered meaning row
      · exact notAnd
      · exact notOr
  | case7 kind isNegated any subject pattern escape? =>
      simp only [plainPatterns, Bool.and_eq_true, Bool.not_eq_true', Option.isNone_iff_eq_none]
        at plain
      -- Without ESCAPE and ANY a pattern is an ordinary constant.
      obtain ⟨rfl, rfl⟩ := plain
      rw [patternComparator_eq_ofSql] at lowered
      exact comparedWith_of_comparison lowered meaning row
  | case8 isNegated subject items =>
      obtain ⟨values, found, rest⟩ := Outcome.bind_eq_ok.mp lowered
      obtain ⟨column, named, same⟩ := Outcome.bind_eq_ok.mp rest
      obtain rfl := Except.ok.inj same
      have denoted : items.mapM constant? = some values := by
        rw [Outcome.mapM_eq_some]
        exact (Outcome.mapM_eq_ok.mp found).imp fun _ _ => (literal_eq_ok_iff _ _).mp
      rw [truth?, compared, columnName?_of_column named, denoted]
      cases isNegated <;> rfl
  | case9 isNegated subject low high =>
      obtain ⟨column, named, rest⟩ := Outcome.bind_eq_ok.mp lowered
      obtain ⟨least, lowFound, rest⟩ := Outcome.bind_eq_ok.mp rest
      obtain ⟨greatest, highFound, same⟩ := Outcome.bind_eq_ok.mp rest
      obtain rfl := Except.ok.inj same
      have within := truth_range meaning row column least greatest
      rw [truth?, comparedWith, comparedWith, compared, compared, columnName?_of_column named,
        (literal_eq_ok_iff _ _).mp lowFound, (literal_eq_ok_iff _ _).mp highFound]
      cases isNegated with
      | false => exact congrArg some within.symm
      | true => exact congrArg (fun value => some value.negated) within.symm
  | case10 isNegated subject =>
      obtain ⟨column, named, same⟩ := Outcome.bind_eq_ok.mp lowered
      obtain rfl := Except.ok.inj same
      rw [truth?, compared, columnName?_of_column named]
      cases isNegated <;> rfl
  | case11 expression => simp at lowered

/-- Lowering keeps the value of a condition on every row, whatever the operators
mean.  What a connective joins becomes one group, which holds the filters of the
joined operands in order and nothing else. -/
theorem filter_keeps_truth {expression : Expr} {filter : Filter}
    (lowered : Lowering.filter scope expression = .ok filter)
    (plain : expression.plainPatterns = true) :
    (∀ (Value : Type) (meaning : Meaning Value) (row : Row Value),
      expression.truth? meaning row = some (filter.truth meaning row)) ∧
    ∀ connective, Lowering.connective? expression = some connective →
      ∃ operands, (expression.chain connective).mapM (Lowering.filter scope) = .ok operands ∧
        filter = .group connective operands := by
  constructor
  · intro Value meaning row
    exact truth?_of_filter lowered plain meaning row
  · intro connective joins
    have chained := mapM_chain_of_filter connective lowered
    refine ⟨_, chained, ?_⟩
    cases expression with
    | binary operator left right =>
        obtain ⟨first, second, -, -, rfl⟩ := filter_binary_of_connective joins lowered
        simp [Lowering.operands, joins]
    | _ => simp [Lowering.connective?] at joins

/-- A chain in which parentheses, a negated range, a qualified column and a
doubly negated number meet. -/
def mixedCondition : Expr :=
  .binary .and
    (.binary .and
      (.binary (.other "=") (.column [⟨"U", none⟩, ⟨"id", none⟩])
        (.minus (.nested (.minus (.value (.number "1" false))))))
      (.between true (.column [⟨"age", none⟩]) (.value (.number "18" false))
        (.value (.number "65" false))))
    (.nested (.binary .and
      (.not (.like .ilike true false (.column [⟨"name", none⟩])
        (.value (.string .single "a%")) none))
      (.binary .or (.isNull true (.column [⟨"mail", none⟩]))
        (.inList false (.column [⟨"role", none⟩]) [.value (.boolean true), .value .null]))))

/-- The filter of the mixed condition, with its inner chain as a group of its own. -/
def mixedFilter : Filter :=
  .group .conjunction
    [.compare "id" .equal (.number "1"),
      .negation (.group .conjunction
        [.compare "age" .atLeast (.number "18"), .compare "age" .atMost (.number "65")]),
      .group .conjunction
        [.negation (.compare "name" (.other "NOT ILIKE") (.string "a%")),
          .group .disjunction
            [.compare "mail" .notIdentical .null,
              .comparison ⟨"role", .among, .list [.boolean true, .null]⟩]]]

theorem mixedFilter_keeps_truth :
    Lowering.filter { table := "users", alias? := some "u" } mixedCondition = .ok mixedFilter ∧
    mixedCondition.plainPatterns = true ∧
    (∀ (Value : Type) (meaning : Meaning Value) (row : Row Value),
      mixedCondition.truth? meaning row = some (mixedFilter.truth meaning row)) ∧
    ∀ connective, Lowering.connective? mixedCondition = some connective →
      ∃ operands, (mixedCondition.chain connective).mapM
          (Lowering.filter { table := "users", alias? := some "u" }) = .ok operands ∧
        mixedFilter = .group connective operands := by
  have lowered : Lowering.filter { table := "users", alias? := some "u" } mixedCondition =
      .ok mixedFilter := rfl
  exact ⟨lowered, rfl, filter_keeps_truth lowered rfl⟩

end Expr

end Sql

end OrmCode
