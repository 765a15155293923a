import OrmCode.Proofs.Lowering.Admission

/-!
# Qualifiers of columns

A statement on one table is refused if the last qualifier of some column names neither the
table nor its alias.  Otherwise its qualifiers say nothing: without them it is lowered to the
same statement, or refused as it was.
-/

namespace OrmCode

namespace Lowering

variable {scope : Scope}

/-- No column in an expression is foreign. -/
def Scope.KnowsAll (scope : Scope) (expression : Sql.Expr) : Prop :=
  ∀ name, Sql.Expr.column name ∈ expression.parts → ¬scope.IsForeign name

namespace Scope.KnowsAll

/-- What is known of an expression is known of each expression whose parts are its parts. -/
theorem of_parts {expression part : Sql.Expr} (known : scope.KnowsAll expression)
    (included : ∀ inner ∈ part.parts, inner ∈ expression.parts) : scope.KnowsAll part :=
  fun name member => known name (included _ member)

/-- What is known of an expression is known of the one that it starts with. -/
theorem of_subject {expression subject : Sql.Expr} {others : List Sql.Expr}
    (known : scope.KnowsAll expression)
    (starts : expression.parts = expression :: (subject.parts ++ others)) :
    scope.KnowsAll subject := by
  refine known.of_parts fun inner member => ?_
  rw [starts]
  exact List.mem_cons_of_mem _ (List.mem_append_left _ member)

end Scope.KnowsAll

theorem toOption_literal_unqualified (expression : Sql.Expr) :
    (literal expression.unqualified).toOption = (literal expression).toOption := by
  fun_induction literal expression with
  | case1 constant => rfl
  | case2 operand induction =>
      rw [Sql.Expr.unqualified, literal, Outcome.toOption_bind, Outcome.toOption_bind, induction]
      refine Option.bind_congr fun value _ => ?_
      cases value <;> rfl
  | case3 inner induction => exact induction
  | case4 expression notValue notMinus notNested =>
      cases expression with
      | value constant => exact absurd rfl (notValue constant)
      | minus operand => exact absurd rfl (notMinus operand)
      | nested inner => exact absurd rfl (notNested inner)
      | _ => rfl

theorem toOption_literals_unqualified (items : List Sql.Expr) :
    ((Sql.Expr.unqualified.unqualifiedAll items).mapM literal).toOption =
      (items.mapM literal).toOption := by
  induction items with
  | nil => rfl
  | cons item items induction =>
      simp only [Sql.Expr.unqualified.unqualifiedAll, List.mapM_cons, Outcome.toOption_bind,
        toOption_literal_unqualified, induction]

theorem toOption_column_unqualified {expression : Sql.Expr} (known : scope.KnowsAll expression) :
    (scope.column expression.unqualified).toOption = (scope.column expression).toOption := by
  cases expression with
  | column name => exact Scope.toOption_resolve_bareName (known name (List.mem_singleton_self _))
  | _ => rfl

theorem toOption_comparison_unqualified {subject value : Sql.Expr} (comparator : Comparator)
    (known : scope.KnowsAll subject) :
    (comparison scope subject.unqualified comparator value.unqualified).toOption =
      (comparison scope subject comparator value).toOption := by
  simp only [comparison, Outcome.toOption_bind, toOption_column_unqualified known,
    toOption_literal_unqualified]

theorem connective?_unqualified (expression : Sql.Expr) :
    connective? expression.unqualified = connective? expression := by
  cases expression with
  | binary operator left right => cases operator <;> rfl
  | _ => rfl

theorem operands_unqualified (connective : Connective) (expression : Sql.Expr)
    (lowered : Filter) :
    operands connective expression.unqualified lowered =
      operands connective expression lowered := by
  unfold operands
  rw [connective?_unqualified]

/-- Without its qualifiers a condition becomes the same filter, or none as before. -/
theorem toOption_filter_unqualified {expression : Sql.Expr} (known : scope.KnowsAll expression) :
    (filter scope expression.unqualified).toOption = (filter scope expression).toOption := by
  fun_induction filter scope expression with
  | case1 inner induction =>
      rw [Sql.Expr.unqualified, filter]
      exact induction (known.of_parts fun _ => List.mem_cons_of_mem _)
  | case2 operand induction =>
      rw [Sql.Expr.unqualified, filter, Outcome.toOption_bind, Outcome.toOption_bind,
        induction (known.of_parts fun _ => List.mem_cons_of_mem _)]
  | case3 left right leftInduction rightInduction
  | case4 left right leftInduction rightInduction =>
      have rightKnown : scope.KnowsAll right :=
        known.of_parts fun _ member => List.mem_cons_of_mem _ (List.mem_append_right _ member)
      rw [Sql.Expr.unqualified, filter]
      simp only [Outcome.toOption_bind, leftInduction (known.of_subject rfl),
        rightInduction rightKnown, operands_unqualified]
  | case5 operator left right notAnd notOr arithmetic =>
      rw [Sql.Expr.unqualified, filter, if_pos arithmetic]
      · rfl
      · exact notAnd
      · exact notOr
  | case6 operator left right notAnd notOr arithmetic =>
      rw [Sql.Expr.unqualified, filter, if_neg arithmetic]
      · exact toOption_comparison_unqualified _ (known.of_subject rfl)
      · exact notAnd
      · exact notOr
  | case7 kind isNegated any subject pattern escape? =>
      exact toOption_comparison_unqualified _ (known.of_subject rfl)
  | case8 isNegated subject items =>
      rw [Sql.Expr.unqualified, filter]
      simp only [Outcome.toOption_bind, toOption_literals_unqualified,
        toOption_column_unqualified (known.of_subject rfl)]
  | case9 isNegated subject low high =>
      have starts : (Sql.Expr.between isNegated subject low high).parts =
          .between isNegated subject low high :: (subject.parts ++ (low.parts ++ high.parts)) :=
        congrArg _ (List.append_assoc _ _ _)
      rw [Sql.Expr.unqualified, filter]
      simp only [Outcome.toOption_bind, toOption_literal_unqualified,
        toOption_column_unqualified (known.of_subject starts)]
  | case10 isNegated subject =>
      rw [Sql.Expr.unqualified, filter]
      simp only [Outcome.toOption_bind, toOption_column_unqualified
        (known.of_parts fun _ => List.mem_cons_of_mem _)]
  | case11 expression notNested notNot notAnd notOr notBinary notLike notInList notBetween
      notIsNull =>
      cases expression with
      | nested inner => exact absurd rfl (notNested inner)
      | not operand => exact absurd rfl (notNot operand)
      | binary operator left right => exact absurd rfl (notBinary operator left right)
      | like kind isNegated any subject pattern escape? => exact absurd rfl (notLike _ _ _ _ _ _)
      | inList isNegated subject items => exact absurd rfl (notInList _ _ _)
      | between isNegated subject low high => exact absurd rfl (notBetween _ _ _ _)
      | isNull isNegated subject => exact absurd rfl (notIsNull _ _)
      | _ => rfl

theorem toOption_filter?_unqualified {condition? : Option Sql.Expr}
    (known : ∀ expression ∈ condition?.toList, scope.KnowsAll expression) :
    (filter? scope (condition?.map Sql.Expr.unqualified)).toOption =
      (filter? scope condition?).toOption := by
  cases condition? with
  | none => rfl
  | some condition =>
      have found := toOption_filter_unqualified (known condition (List.mem_singleton_self _))
      simp only [Option.map_some, filter?, Outcome.toOption_map, found]

theorem toOption_selectedColumns_unqualified {items : List Sql.SelectItem}
    (known : ∀ expression ∈ items.filterMap Sql.SelectItem.expression?,
      scope.KnowsAll expression) :
    (selectedColumns scope (items.map Sql.SelectItem.unqualified)).toOption =
      (selectedColumns scope items).toOption := by
  have each : ∀ item ∈ items, (selectedColumn scope item.unqualified).toOption =
      (selectedColumn scope item).toOption := by
    intro item listed
    cases item with
    | unnamed expression =>
        exact toOption_column_unqualified
          (known expression (List.mem_filterMap.mpr ⟨_, listed, rfl⟩))
    | _ => rfl
  have several := Outcome.toOption_mapM_map each
  cases items with
  | nil => rfl
  | cons item items =>
      cases item <;> cases items <;> first | rfl | exact several

theorem toOption_sortKeys_unqualified {order : List Sql.OrderItem}
    (known : ∀ expression ∈ order.map Sql.OrderItem.expression, scope.KnowsAll expression) :
    ((order.map Sql.OrderItem.unqualified).mapM (sortKey scope)).toOption =
      (order.mapM (sortKey scope)).toOption := by
  refine Outcome.toOption_mapM_map fun item listed => ?_
  have found := toOption_column_unqualified (known _ (List.mem_map_of_mem listed))
  simp only [sortKey, Sql.OrderItem.unqualified, Outcome.toOption_bind, found]

theorem toOption_assignedValue_unqualified {expression : Sql.Expr}
    (known : scope.KnowsAll expression) :
    (assignedValue scope expression.unqualified).toOption =
      (assignedValue scope expression).toOption := by
  cases expression with
  | binary operator left right =>
      cases left with
      | column name =>
          have resolved := Scope.toOption_resolve_bareName (known name (by simp [Sql.Expr.parts]))
          simp only [Sql.Expr.unqualified, assignedValue, Outcome.toOption_bind, resolved,
            toOption_literal_unqualified]
      | _ => rfl
  | minus inner =>
      have found := congrArg (Option.map AssignedValue.literal)
        (toOption_literal_unqualified (.minus inner))
      rwa [← Outcome.toOption_map, ← Outcome.toOption_map] at found
  | nested inner =>
      have found := congrArg (Option.map AssignedValue.literal)
        (toOption_literal_unqualified (.nested inner))
      rwa [← Outcome.toOption_map, ← Outcome.toOption_map] at found
  | _ => rfl

theorem toOption_assignment_unqualified {clause : Sql.SetClause}
    (known : ∀ expression ∈ clause.expressions, scope.KnowsAll expression) :
    (assignment scope clause.unqualified).toOption = (assignment scope clause).toOption := by
  obtain ⟨target, value⟩ := clause
  cases target with
  | column name =>
      obtain ⟨nameKnown, valueKnown, -⟩ :
          scope.KnowsAll (.column name) ∧ scope.KnowsAll value ∧ _ :=
        List.forall_mem_cons.mp known |>.imp id List.forall_mem_cons.mp
      have resolved := Scope.toOption_resolve_bareName
        (nameKnown name (List.mem_singleton_self _))
      simp only [assignment, Sql.SetClause.unqualified, Outcome.toOption_bind, resolved,
        toOption_assignedValue_unqualified valueKnown]
  | tuple names => rfl

theorem plainSelect_unqualified (asked : Sql.Query) :
    plainSelect asked.unqualified = Sql.Select.unqualified <$> plainSelect asked := by
  obtain ⟨commonTables, body⟩ := asked
  cases body with
  | select selected =>
      simp [plainSelect, Sql.Query.unqualified, Sql.Select.unqualified, map_bind]
  | _ =>
      simp only [plainSelect, Sql.Query.unqualified, map_bind]
      rfl

theorem toOption_selection_unqualified {asked : Sql.Query}
    (one : (Sql.ParsedStatement.query asked).scope? = some scope)
    (known : ∀ expression ∈ (Sql.ParsedStatement.query asked).expressions,
      scope.KnowsAll expression) :
    (selection asked.unqualified).toOption = (selection asked).toOption := by
  rw [selection, selection, plainSelect_unqualified, bind_map_left, Outcome.toOption_bind,
    Outcome.toOption_bind]
  refine Option.bind_congr fun selected plain => ?_
  have body := (Sql.Query.plainSelect_eq_ok.mp (Outcome.toOption_eq_some.mp plain)).1
  simp only [Sql.ParsedStatement.expressions, body, List.forall_mem_append] at known
  obtain ⟨⟨items, condition⟩, order⟩ := known
  rw [Outcome.toOption_bind, Outcome.toOption_bind]
  refine Option.bind_congr fun found made => ?_
  simp only [Sql.ParsedStatement.scope?, body] at one
  obtain rfl : found = scope := Option.some.inj
    ((scope?_of_selectScope (Outcome.toOption_eq_some.mp made)).symm.trans one)
  simp only [Sql.Select.unqualified, Sql.Query.unqualified, Outcome.toOption_bind,
    toOption_selectedColumns_unqualified items, toOption_filter?_unqualified condition,
    toOption_sortKeys_unqualified order]

theorem toOption_update_unqualified {updated : Sql.UpdateStatement}
    (one : (Sql.ParsedStatement.update updated).scope? = some scope)
    (known : ∀ expression ∈ (Sql.ParsedStatement.update updated).expressions,
      scope.KnowsAll expression) :
    (update updated.unqualified).toOption = (update updated).toOption := by
  simp only [Sql.ParsedStatement.expressions, List.forall_mem_append, List.forall_mem_flatMap]
    at known
  obtain ⟨clauses, condition⟩ := known
  have made : (Scope.ofReference updated.table).toOption = some scope := by
    rw [toOption_ofReference]
    exact one
  have assigned : ((updated.assignments.map Sql.SetClause.unqualified).mapM
      (assignment scope)).toOption = (updated.assignments.mapM (assignment scope)).toOption :=
    Outcome.toOption_mapM_map fun clause listed =>
      toOption_assignment_unqualified (clauses clause listed)
  simp only [update, Sql.UpdateStatement.unqualified, Outcome.toOption_bind, made,
    Option.bind_some, assigned, toOption_filter?_unqualified condition]

theorem toOption_deletion_unqualified {deleted : Sql.DeleteStatement}
    (one : (Sql.ParsedStatement.delete deleted).scope? = some scope)
    (known : ∀ expression ∈ (Sql.ParsedStatement.delete deleted).expressions,
      scope.KnowsAll expression) :
    (deletion deleted.unqualified).toOption = (deletion deleted).toOption := by
  have made : ∀ found, (deleteScope deleted.sources).toOption = some found → found = scope :=
    fun found made => Option.some.inj
      ((scope?_of_deleteScope (Outcome.toOption_eq_some.mp made)).symm.trans one)
  simp only [deletion, Sql.DeleteStatement.unqualified, Outcome.toOption_bind]
  refine Option.bind_congr fun _ _ => Option.bind_congr fun _ _ => Option.bind_congr fun _ _ =>
    Option.bind_congr fun _ _ => Option.bind_congr fun _ _ => Option.bind_congr fun found read => ?_
  obtain rfl := made found read
  rw [toOption_filter?_unqualified known]

/-- A statement on one table fails if its selected, compared or assigned columns and those it is
sorted by include one whose last qualifier names neither the table nor its alias, or if some of
these parts are texts that may hide one.  If they include none, the qualifiers make no
difference: without them the statement is lowered to the same, or fails as it did. -/
theorem statement_of_qualifiers {parsed : Sql.ParsedStatement}
    (one : parsed.scope? = some scope) :
    ((∃ part ∈ parsed.expressions.flatMap Sql.Expr.parts, ¬scope.Admits part) →
      ∃ reason, statement parsed = .error reason ∧
        reason.fault.code = "UNSUPPORTED_CONSTRUCT") ∧
    ((∀ name, .column name ∈ parsed.expressions.flatMap Sql.Expr.parts →
        ¬scope.IsForeign name) →
      ∀ lowered, statement parsed = .ok lowered ↔ statement parsed.unqualified = .ok lowered) ∧
    ∀ name, .column name ∈ parsed.unqualified.expressions.flatMap Sql.Expr.parts →
      name.length ≤ 1 := by
  refine ⟨?_, ?_, ?_⟩
  · rintro ⟨part, member, refused⟩
    cases read : statement parsed with
    | error reason => exact ⟨reason, rfl, rfl⟩
    | ok lowered =>
        exact absurd (admits_of_flatMap (admits_of_statement one read) part member) refused
  · intro known
    have knownAll : ∀ expression ∈ parsed.expressions, scope.KnowsAll expression :=
      fun expression listed name inside =>
        known name (List.mem_flatMap.mpr ⟨expression, listed, inside⟩)
    have same : (statement parsed.unqualified).toOption = (statement parsed).toOption := by
      cases parsed with
      | query asked =>
          have found := toOption_selection_unqualified one knownAll
          simp only [Sql.ParsedStatement.unqualified, statement, Outcome.toOption_map, found]
      | update updated =>
          have found := toOption_update_unqualified one knownAll
          simp only [Sql.ParsedStatement.unqualified, statement, Outcome.toOption_map, found]
      | delete deleted =>
          have found := toOption_deletion_unqualified one knownAll
          simp only [Sql.ParsedStatement.unqualified, statement, Outcome.toOption_map, found]
      | _ => rfl
    intro lowered
    rw [← Outcome.toOption_eq_some, ← Outcome.toOption_eq_some, same]
  · intro name member
    rw [Sql.ParsedStatement.expressions_unqualified, List.flatMap_map] at member
    obtain ⟨expression, -, inside⟩ := List.mem_flatMap.mp member
    exact expression.length_of_unqualified name inside

/-- `SELECT U.id FROM db.users AS u WHERE NOT q.name IS NULL ORDER BY u.id` for a qualifier `q`. -/
def aliasedQuery (qualifier : String) : Sql.ParsedStatement :=
  .query {
    body := .select {
      items := [.unnamed (.column [⟨"U", none⟩, ⟨"id", none⟩])]
      sources := [⟨.named [⟨"db", none⟩, ⟨"users", none⟩] "" (some ⟨"u", none⟩) "" "", []⟩]
      condition? := some (.not (.isNull false (.column [⟨qualifier, none⟩, ⟨"name", none⟩]))) }
    order := [{ expression := .column [⟨"u", none⟩, ⟨"id", none⟩] }] }

/-- The table names a column of its aliased query in any case, another table does not. -/
theorem statement_of_aliasedQuery :
    (aliasedQuery "Users").scope? = some ⟨"users", some "u"⟩ ∧
    (statement (aliasedQuery "Users")).isOk ∧
    (∀ lowered, statement (aliasedQuery "Users") = .ok lowered ↔
      statement (aliasedQuery "Users").unqualified = .ok lowered) ∧
    ∃ reason, statement (aliasedQuery "orders") = .error reason ∧
      reason.fault.code = "UNSUPPORTED_CONSTRUCT" := by
  let scope : Scope := ⟨"users", some "u"⟩
  have foreign (qualifier column : String) :
      scope.IsForeign [⟨qualifier, none⟩, ⟨column, none⟩] ↔ scope.owns qualifier = false :=
    @Scope.isForeign_append_iff _ [] _ _
  have one (qualifier : String) : (aliasedQuery qualifier).scope? = some scope := rfl
  have known := statement_of_qualifiers (one "Users")
  have unknown := statement_of_qualifiers (one "orders")
  refine ⟨rfl, by decide, known.2.1 fun name member => ?_, unknown.1 ?_⟩
  · have listed : name = [⟨"U", none⟩, ⟨"id", none⟩] ∨ name = [⟨"Users", none⟩, ⟨"name", none⟩] ∨
        name = [⟨"u", none⟩, ⟨"id", none⟩] := by
      simpa [aliasedQuery, Sql.ParsedStatement.expressions, Sql.SelectItem.expression?,
        Sql.Expr.parts] using member
    rcases listed with rfl | rfl | rfl <;> rw [foreign] <;> decide
  · refine ⟨.column [⟨"orders", none⟩, ⟨"name", none⟩], ?_, ?_⟩
    · simp [aliasedQuery, Sql.ParsedStatement.expressions, Sql.SelectItem.expression?,
        Sql.Expr.parts]
    · exact not_not.mpr ((foreign _ _).mpr (by decide))

end Lowering

end OrmCode
