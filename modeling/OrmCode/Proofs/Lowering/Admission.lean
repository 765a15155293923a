import OrmCode.Proofs.Lowering.Scope

/-!
# Columns that are admitted

A statement on one table is lowered only if it admits every part of its expressions: no column
that is foreign to the table, and no text that is kept as it is.
-/

namespace OrmCode

namespace Lowering

/-- Every part of an expression is admitted. -/
def Scope.AdmitsAll (scope : Scope) (expression : Sql.Expr) : Prop :=
  ∀ part ∈ expression.parts, scope.Admits part

variable {scope : Scope}

theorem admitsAll_of_column {expression : Sql.Expr} {column : String}
    (named : scope.column expression = .ok column) : scope.AdmitsAll expression := by
  unfold Scope.column at named
  split at named
  · next name =>
      exact List.forall_mem_singleton.mpr (Scope.not_isForeign_of_resolve named)
  · cases named

theorem admitsAll_of_literal {expression : Sql.Expr} {value : Literal}
    (read : literal expression = .ok value) : scope.AdmitsAll expression := by
  fun_induction literal expression generalizing value with
  | case1 constant => simp [Scope.AdmitsAll, Sql.Expr.parts, Scope.Admits]
  | case2 operand induction =>
      obtain ⟨inner, found, -⟩ := Outcome.bind_eq_ok.mp read
      simp only [Scope.AdmitsAll, Sql.Expr.parts, List.forall_mem_cons]
      exact ⟨trivial, induction found⟩
  | case3 inner induction =>
      simp only [Scope.AdmitsAll, Sql.Expr.parts, List.forall_mem_cons]
      exact ⟨trivial, induction read⟩
  | case4 expression => cases read

theorem admitsAll_of_comparison {subject value : Sql.Expr} {comparator : Comparator}
    {lowered : Filter} (compared : comparison scope subject comparator value = .ok lowered) :
    scope.AdmitsAll subject ∧ scope.AdmitsAll value := by
  obtain ⟨column, named, rest⟩ := Outcome.bind_eq_ok.mp compared
  obtain ⟨constant, read, -⟩ := Outcome.bind_eq_ok.mp rest
  exact ⟨admitsAll_of_column named, admitsAll_of_literal read⟩

theorem admits_of_literals {items : List Sql.Expr} {values : List Literal}
    (read : items.mapM literal = .ok values) :
    ∀ part ∈ Sql.Expr.parts.partsOfAll items, scope.Admits part := by
  have each : ∀ item ∈ items, ∃ value, literal item = .ok value :=
    fun item member => Outcome.exists_of_mem_of_mapM read member
  clear read
  induction items with
  | nil => simp [Sql.Expr.parts.partsOfAll]
  | cons item items induction =>
      obtain ⟨⟨value, here⟩, later⟩ := List.forall_mem_cons.mp each
      simp only [Sql.Expr.parts.partsOfAll, List.forall_mem_append]
      exact ⟨admitsAll_of_literal here, induction later⟩

/-- A condition becomes a filter only if it names no foreign column and nothing in it is
kept as text. -/
theorem admitsAll_of_filter {expression : Sql.Expr} {lowered : Filter}
    (read : filter scope expression = .ok lowered) : scope.AdmitsAll expression := by
  fun_induction filter scope expression generalizing lowered with
  | case1 inner induction =>
      simp only [Scope.AdmitsAll, Sql.Expr.parts, List.forall_mem_cons]
      exact ⟨trivial, induction read⟩
  | case2 operand induction =>
      obtain ⟨inner, found, -⟩ := Outcome.bind_eq_ok.mp read
      simp only [Scope.AdmitsAll, Sql.Expr.parts, List.forall_mem_cons]
      exact ⟨trivial, induction found⟩
  | case3 left right leftInduction rightInduction
  | case4 left right leftInduction rightInduction =>
      obtain ⟨first, leftFound, rest⟩ := Outcome.bind_eq_ok.mp read
      obtain ⟨second, rightFound, -⟩ := Outcome.bind_eq_ok.mp rest
      simp only [Scope.AdmitsAll, Sql.Expr.parts, List.forall_mem_cons, List.forall_mem_append]
      exact ⟨trivial, leftInduction leftFound, rightInduction rightFound⟩
  | case5 operator left right notAnd notOr arithmetic => cases read
  | case6 operator left right notAnd notOr arithmetic =>
      simp only [Scope.AdmitsAll, Sql.Expr.parts, List.forall_mem_cons, List.forall_mem_append]
      exact ⟨trivial, admitsAll_of_comparison read⟩
  | case7 kind isNegated any subject pattern escape? =>
      simp only [Scope.AdmitsAll, Sql.Expr.parts, List.forall_mem_cons, List.forall_mem_append]
      exact ⟨trivial, admitsAll_of_comparison read⟩
  | case8 isNegated subject items =>
      obtain ⟨values, itemsRead, rest⟩ := Outcome.bind_eq_ok.mp read
      obtain ⟨column, named, -⟩ := Outcome.bind_eq_ok.mp rest
      simp only [Scope.AdmitsAll, Sql.Expr.parts, List.forall_mem_cons, List.forall_mem_append]
      exact ⟨trivial, admitsAll_of_column named, admits_of_literals itemsRead⟩
  | case9 isNegated subject low high =>
      obtain ⟨column, named, rest⟩ := Outcome.bind_eq_ok.mp read
      obtain ⟨least, lowRead, rest⟩ := Outcome.bind_eq_ok.mp rest
      obtain ⟨greatest, highRead, -⟩ := Outcome.bind_eq_ok.mp rest
      simp only [Scope.AdmitsAll, Sql.Expr.parts, List.forall_mem_cons, List.forall_mem_append]
      exact ⟨trivial, ⟨admitsAll_of_column named, admitsAll_of_literal lowRead⟩,
        admitsAll_of_literal highRead⟩
  | case10 isNegated subject =>
      obtain ⟨column, named, -⟩ := Outcome.bind_eq_ok.mp read
      simp only [Scope.AdmitsAll, Sql.Expr.parts, List.forall_mem_cons]
      exact ⟨trivial, admitsAll_of_column named⟩
  | case11 expression => cases read

/-- Every expression of a list has only admitted parts. -/
theorem admits_of_flatMap {expressions : List Sql.Expr}
    (each : ∀ expression ∈ expressions, scope.AdmitsAll expression) :
    ∀ part ∈ expressions.flatMap Sql.Expr.parts, scope.Admits part := by
  intro part member
  obtain ⟨expression, listed, inside⟩ := List.mem_flatMap.mp member
  exact each expression listed part inside

theorem admitsAll_of_filter? {condition? : Option Sql.Expr} {lowered? : Option Filter}
    (read : filter? scope condition? = .ok lowered?) :
    ∀ expression ∈ condition?.toList, scope.AdmitsAll expression := by
  cases condition? with
  | none => simp
  | some condition =>
      obtain ⟨lowered, found, -⟩ := Outcome.map_eq_ok.mp read
      simpa using admitsAll_of_filter found

theorem admitsAll_of_selectedColumns {items : List Sql.SelectItem} {columns : List String}
    (read : selectedColumns scope items = .ok columns) :
    ∀ expression ∈ items.filterMap Sql.SelectItem.expression?, scope.AdmitsAll expression := by
  unfold selectedColumns at read
  split at read
  · simp [Sql.SelectItem.expression?]
  · intro expression member
    obtain ⟨item, listed, same⟩ := List.mem_filterMap.mp member
    obtain ⟨column, found⟩ := Outcome.exists_of_mem_of_mapM read listed
    cases item with
    | unnamed inner =>
        obtain rfl := Option.some.inj same
        exact admitsAll_of_column found
    | aliased inner label => cases found
    | everything options => cases same
    | everythingOf table options => cases same

theorem admitsAll_of_sortKeys {order : List Sql.OrderItem} {keys : List SortKey}
    (read : order.mapM (sortKey scope) = .ok keys) :
    ∀ expression ∈ order.map Sql.OrderItem.expression, scope.AdmitsAll expression := by
  rw [List.forall_mem_map]
  intro item listed
  obtain ⟨key, found⟩ := Outcome.exists_of_mem_of_mapM read listed
  obtain ⟨column, named, -⟩ := Outcome.bind_eq_ok.mp found
  exact admitsAll_of_column named

theorem admitsAll_of_assignedValue {expression : Sql.Expr} {value : AssignedValue}
    (read : assignedValue scope expression = .ok value) : scope.AdmitsAll expression := by
  unfold assignedValue at read
  split at read
  · next operator left right =>
      split at read
      · next name =>
          obtain ⟨column, resolved, rest⟩ := Outcome.bind_eq_ok.mp read
          obtain ⟨amount, found, -⟩ := Outcome.bind_eq_ok.mp rest
          simp only [Scope.AdmitsAll, Sql.Expr.parts, List.forall_mem_cons,
            List.forall_mem_append]
          exact ⟨trivial, ⟨Scope.not_isForeign_of_resolve resolved, nofun⟩,
            admitsAll_of_literal found⟩
      · cases read
  · obtain ⟨constant, found, -⟩ := Outcome.map_eq_ok.mp read
    exact admitsAll_of_literal found

theorem admitsAll_of_assignment {clause : Sql.SetClause} {assigned : Assignment}
    (read : assignment scope clause = .ok assigned) :
    ∀ expression ∈ clause.expressions, scope.AdmitsAll expression := by
  obtain ⟨target, value⟩ := clause
  cases target with
  | column name =>
      obtain ⟨column, resolved, rest⟩ := Outcome.bind_eq_ok.mp read
      obtain ⟨made, found, -⟩ := Outcome.bind_eq_ok.mp rest
      have known : scope.AdmitsAll (.column name) :=
        List.forall_mem_singleton.mpr (Scope.not_isForeign_of_resolve resolved)
      exact List.forall_mem_cons.mpr
        ⟨known, List.forall_mem_singleton.mpr (admitsAll_of_assignedValue found)⟩
  | tuple names => cases read

/-- A statement on one table is lowered only if it names no foreign column and nothing that is
selected, compared, sorted by or assigned is kept as text. -/
theorem admits_of_statement {parsed : Sql.ParsedStatement} {lowered : Statement}
    (one : parsed.scope? = some scope) (read : statement parsed = .ok lowered) :
    ∀ expression ∈ parsed.expressions, scope.AdmitsAll expression := by
  cases parsed with
  | query asked =>
      obtain ⟨selected, found, -⟩ := Outcome.map_eq_ok.mp read
      obtain ⟨plain, reference, found', plainFound, only, referenceFound, -, columns, condition,
        order, -⟩ := Sql.Query.selection_eq_ok.mp found
      have body := (Sql.Query.plainSelect_eq_ok.mp plainFound).1
      simp only [Sql.ParsedStatement.scope?, body, only, Sql.onlyScope?] at one
      obtain rfl : found' = scope :=
        Option.some.inj ((scope?_of_ofReference referenceFound).symm.trans one)
      simp only [Sql.ParsedStatement.expressions, body, List.forall_mem_append]
      exact ⟨⟨admitsAll_of_selectedColumns columns, admitsAll_of_filter? condition⟩,
        admitsAll_of_sortKeys order⟩
  | update updated =>
      obtain ⟨changed, found, -⟩ := Outcome.map_eq_ok.mp read
      obtain ⟨-, -, -, found', referenceFound, -, assignments, condition⟩ :=
        Sql.UpdateStatement.update_eq_ok.mp found
      obtain rfl : found' = scope :=
        Option.some.inj ((scope?_of_ofReference referenceFound).symm.trans one)
      simp only [Sql.ParsedStatement.expressions, List.forall_mem_append, List.forall_mem_flatMap]
      refine ⟨fun clause listed => ?_, admitsAll_of_filter? condition⟩
      obtain ⟨assigned, read⟩ := Outcome.exists_of_mem_of_mapM assignments listed
      exact admitsAll_of_assignment read
  | delete deleted =>
      obtain ⟨removed, found, -⟩ := Outcome.map_eq_ok.mp read
      obtain ⟨-, -, -, -, -, reference, found', only, referenceFound, -, condition⟩ :=
        Sql.DeleteStatement.deletion_eq_ok.mp found
      simp only [Sql.ParsedStatement.scope?, only, Sql.onlyScope?] at one
      obtain rfl : found' = scope :=
        Option.some.inj ((scope?_of_ofReference referenceFound).symm.trans one)
      exact admitsAll_of_filter? condition
  | _ => cases one

end Lowering

end OrmCode
