import OrmCode.Proofs.Meaning.Overlooked

/-!
# Lowering reads the parts of statements as what they mean

A part that is lowered has the meaning of its lowered form exactly when nothing
in it is overlooked, and without its overlooked parts it is lowered to the same.
-/

namespace OrmCode

namespace Sql

variable {Value : Type} {scope : Lowering.Scope}

namespace Expr

theorem overlooked_eq_nil_iff (expression : Expr) :
    expression.overlooked = [] ↔ expression.plainPatterns = true := by
  fun_induction plainPatterns expression with
  | case1 inner induction => exact induction
  | case2 operand induction => exact induction
  | case3 operator left right leftInduction rightInduction =>
      rw [overlooked, List.append_eq_nil_iff, leftInduction, rightInduction, Bool.and_eq_true]
  | case4 kind isNegated any subject pattern escape? =>
      cases any <;> cases escape? <;> simp [overlooked]
  | case5 expression =>
      simp_all [overlooked]

theorem plainPatterns_of_constant? {expression : Expr} {literal : Literal}
    (denoted : expression.constant? = some literal) : expression.plainPatterns = true := by
  fun_induction plainPatterns expression with
  | case1 inner induction => exact induction denoted
  | case5 expression => rfl
  | _ => simp [constant?] at denoted

theorem plainPatterns_of_columnName? {expression : Expr} {column : String}
    (named : expression.columnName? = some column) : expression.plainPatterns = true := by
  cases expression with
  | column name => rfl
  | _ => simp [columnName?] at named

/-- Only conditions without overlooked parts have a value. -/
theorem plainPatterns_of_truth? {expression : Expr} {meaning : Meaning Value} {row : Row Value}
    {truth : Truth} (valued : expression.truth? meaning row = some truth) :
    expression.plainPatterns = true := by
  fun_induction truth? meaning row expression generalizing truth with
  | case1 inner induction => exact induction valued
  | case2 operand induction =>
      obtain ⟨inner, found, -⟩ := Option.map_eq_some_iff.mp valued
      exact induction found
  | case3 left right leftInduction rightInduction
  | case4 left right leftInduction rightInduction =>
      obtain ⟨first, leftFound, rest⟩ := Option.bind_eq_some_iff.mp valued
      obtain ⟨second, rightFound, -⟩ := Option.bind_eq_some_iff.mp rest
      rw [plainPatterns, leftInduction leftFound, rightInduction rightFound]
      rfl
  | case5 operator left right => simp at valued
  | case6 operator left right =>
      obtain ⟨column, named, rest⟩ := Option.bind_eq_some_iff.mp valued
      obtain ⟨operand, found, -⟩ := Option.bind_eq_some_iff.mp rest
      obtain ⟨literal, denoted, -⟩ := Option.map_eq_some_iff.mp found
      rw [plainPatterns, plainPatterns_of_columnName? named, plainPatterns_of_constant? denoted]
      rfl
  | case11 expression => simp at valued
  | _ => rfl

theorem constant?_stripped (expression : Expr) :
    expression.stripped.constant? = expression.constant? := by
  fun_induction stripped expression with
  | case1 inner induction => exact induction
  | case5 expression => rfl
  | _ => rfl

theorem connective?_stripped (expression : Expr) :
    Lowering.connective? expression.stripped = Lowering.connective? expression := by
  cases expression with
  | binary operator left right => cases operator <;> rfl
  | _ => rfl

theorem stripped_of_column {expression : Expr} {column : String}
    (named : scope.column expression = .ok column) : expression.stripped = expression := by
  cases expression with
  | column name => rfl
  | _ => simp [Lowering.Scope.column] at named

theorem overlooked_stripped (expression : Expr) : expression.stripped.overlooked = [] := by
  fun_induction stripped expression with
  | case1 inner induction => exact induction
  | case2 operand induction => exact induction
  | case3 operator left right leftInduction rightInduction =>
      rw [overlooked, leftInduction, rightInduction]
      rfl
  | case4 kind isNegated any subject pattern escape? => rfl
  | case5 expression => simp_all [overlooked]

theorem operands_stripped (connective : Connective) (expression : Expr) (filter : Filter) :
    Lowering.operands connective expression.stripped filter =
      Lowering.operands connective expression filter := by
  unfold Lowering.operands
  rw [connective?_stripped]

theorem comparison_stripped {subject constant : Expr} {comparator : Comparator} {filter : Filter}
    (lowered : Lowering.comparison scope subject comparator constant = .ok filter) :
    Lowering.comparison scope subject.stripped comparator constant.stripped = .ok filter := by
  obtain ⟨column, named, rest⟩ := Outcome.bind_eq_ok.mp lowered
  obtain ⟨value, found, same⟩ := Outcome.bind_eq_ok.mp rest
  have denoted : constant.stripped.constant? = some value := by
    rw [constant?_stripped, ← literal_eq_ok_iff, found]
  rw [stripped_of_column named]
  exact Outcome.bind_eq_ok.mpr
    ⟨column, named, Outcome.bind_eq_ok.mpr ⟨value, (literal_eq_ok_iff _ _).mpr denoted, same⟩⟩

/-- What joins two conditions joins them without their overlooked parts. -/
theorem filter_stripped {expression : Expr} {filter : Filter}
    (lowered : Lowering.filter scope expression = .ok filter) :
    Lowering.filter scope expression.stripped = .ok filter := by
  -- The two sides of a connective stay chains or operands as they were, since nothing
  -- that is stripped decides which connective joins a condition.
  fun_induction Lowering.filter scope expression generalizing filter with
  | case1 inner induction =>
      rw [stripped, Lowering.filter]
      exact induction lowered
  | case2 operand induction =>
      obtain ⟨inner, found, same⟩ := Outcome.bind_eq_ok.mp lowered
      rw [stripped, Lowering.filter]
      exact Outcome.bind_eq_ok.mpr ⟨inner, induction found, same⟩
  | case3 left right leftInduction rightInduction
  | case4 left right leftInduction rightInduction =>
      obtain ⟨first, leftLowered, rest⟩ := Outcome.bind_eq_ok.mp lowered
      obtain ⟨second, rightLowered, same⟩ := Outcome.bind_eq_ok.mp rest
      rw [stripped, Lowering.filter, leftInduction leftLowered, rightInduction rightLowered,
        ← same, ← operands_stripped _ left, ← operands_stripped _ right]
      rfl
  | case5 operator left right notAnd notOr arithmetic => simp at lowered
  | case6 operator left right notAnd notOr arithmetic =>
      rw [stripped, Lowering.filter]
      · rw [if_neg arithmetic]
        exact comparison_stripped lowered
      · exact notAnd
      · exact notOr
  | case7 kind isNegated any subject pattern escape? => exact lowered
  | case8 isNegated subject items => exact lowered
  | case9 isNegated subject low high => exact lowered
  | case10 isNegated subject => exact lowered
  | case11 expression => simp at lowered

end Expr

/-- A condition has the meaning of its filter unless something in it is overlooked. -/
theorem keeps_eq_iff [Inhabited Value] (meaning : Meaning Value) {condition? : Option Expr}
    {filter? : Option Filter} (lowered : Lowering.filter? scope condition? = .ok filter?) :
    keeps meaning condition? = Filter.keeps meaning filter? ↔
      overlookedCondition condition? = [] := by
  cases condition? with
  | none =>
      obtain rfl := Except.ok.inj lowered
      exact iff_of_true rfl rfl
  | some condition =>
      obtain ⟨filter, found, rfl⟩ := Outcome.map_eq_ok.mp lowered
      rw [overlookedCondition, Option.elim_some, Expr.overlooked_eq_nil_iff]
      constructor
      · intro same
        exact Expr.plainPatterns_of_truth? (congrFun same fun _ => default)
      · intro plain
        exact funext (Expr.truth?_of_filter found plain meaning)

theorem filter?_stripped {condition? : Option Expr} {filter? : Option Filter}
    (lowered : Lowering.filter? scope condition? = .ok filter?) :
    Lowering.filter? scope (condition?.map Expr.stripped) = .ok filter? := by
  cases condition? with
  | none => exact lowered
  | some condition =>
      obtain ⟨filter, found, rfl⟩ := Outcome.map_eq_ok.mp lowered
      exact Outcome.map_eq_ok.mpr ⟨filter, Expr.filter_stripped found, rfl⟩

theorem overlookedCondition_stripped (condition? : Option Expr) :
    overlookedCondition (condition?.map Expr.stripped) = [] := by
  cases condition? with
  | none => rfl
  | some condition => exact condition.overlooked_stripped

/-- A table is named without qualifiers unless they are overlooked. -/
theorem namedTable?_eq_iff {name : QualifiedName} {table : String}
    (named : Lowering.tableName name = .ok table) :
    namedTable? name = some table ↔ overlookedInName name = [] := by
  rw [overlookedInName, OverlookedPart.onlyIf_eq_nil, decide_eq_false_iff_not]
  cases name with
  | nil => simp [Lowering.tableName] at named
  | cons first rest =>
      cases rest with
      | nil =>
          obtain rfl := Except.ok.inj named
          simp [namedTable?]
      | cons second others => simp [namedTable?]

theorem tableName_bareName {name : QualifiedName} {table : String}
    (named : Lowering.tableName name = .ok table) :
    Lowering.tableName (bareName name) = .ok table := by
  rw [bareName]
  rw [Lowering.tableName] at named ⊢
  cases last : name.getLast? with
  | none => simp [last] at named
  | some found => simpa [last] using named

theorem overlookedInName_bareName (name : QualifiedName) :
    overlookedInName (bareName name) = [] := by
  rw [overlookedInName, bareName, OverlookedPart.onlyIf_eq_nil, decide_eq_false_iff_not]
  cases name.getLast? <;> simp

namespace TableReference

theorem ofReference_eq_ok {reference : TableReference}
    (lowered : Lowering.Scope.ofReference reference = .ok scope) :
    ∃ name arguments alias? aliasColumns hints,
      reference = ⟨.named name arguments alias? aliasColumns hints, []⟩ ∧
      Lowering.tableName name = .ok scope.table ∧ scope.alias? = alias?.map Name.text := by
  obtain ⟨relation, joins⟩ := reference
  obtain ⟨⟨⟩, unjoined, rest⟩ := Outcome.bind_eq_ok.mp lowered
  cases joins with
  | cons join joins => simp [Lowering.refuseIf] at unjoined
  | nil =>
      cases relation with
      | other text isJoin => simp [throw, throwThe, MonadExceptOf.throw] at rest
      | named name arguments alias? aliasColumns hints =>
          obtain ⟨table, named, same⟩ := Outcome.bind_eq_ok.mp rest
          obtain rfl := Except.ok.inj same
          exact ⟨name, arguments, alias?, aliasColumns, hints, rfl, named, rfl⟩

/-- A source of rows is its table unless something about it is overlooked. -/
theorem table?_eq_iff {reference : TableReference}
    (lowered : Lowering.Scope.ofReference reference = .ok scope) :
    reference.table? = some scope.table ↔ reference.overlooked = [] := by
  obtain ⟨name, arguments, alias?, aliasColumns, hints, rfl, named, -⟩ := ofReference_eq_ok lowered
  simp only [table?, overlooked, List.append_eq_nil_iff, OverlookedPart.ofText_eq_nil,
    ← namedTable?_eq_iff named]
  constructor
  · intro found
    split at found
    · next plain => exact ⟨⟨⟨found, plain.1⟩, plain.2.1⟩, plain.2.2.1⟩
    · simp at found
  · rintro ⟨⟨⟨found, rfl⟩, rfl⟩, rfl⟩
    simpa using found

theorem ofReference_stripped {reference : TableReference}
    (lowered : Lowering.Scope.ofReference reference = .ok scope) :
    Lowering.Scope.ofReference reference.stripped = .ok scope := by
  obtain ⟨name, arguments, alias?, aliasColumns, hints, rfl, named, aliased⟩ :=
    ofReference_eq_ok lowered
  obtain ⟨table, alias?⟩ := scope
  obtain rfl := aliased
  simp [Lowering.Scope.ofReference, stripped, tableName_bareName named, Lowering.refuseIf, bind,
    Except.bind, pure, Except.pure]

theorem overlooked_stripped (reference : TableReference) : reference.stripped.overlooked = [] := by
  obtain ⟨relation, joins⟩ := reference
  cases relation with
  | named name arguments alias? aliasColumns hints =>
      simp [stripped, overlooked, overlookedInName_bareName]
  | other text isJoin => rfl

end TableReference

namespace SelectItem

theorem column?_of_selectedColumn {item : SelectItem} {column : String}
    (lowered : Lowering.selectedColumn scope item = .ok column) :
    item.column? = some column ∧ item.overlooked = [] ∧ item.stripped = item := by
  cases item with
  | unnamed expression => exact ⟨Expr.columnName?_of_column lowered, rfl, rfl⟩
  | _ => simp [Lowering.selectedColumn] at lowered

theorem overlooked_stripped (item : SelectItem) : item.stripped.overlooked = [] := by
  cases item <;> simp [stripped, overlooked]

end SelectItem

/-- The selected columns are those of the items unless an item is everything with options. -/
theorem selectedColumns?_eq_iff {items : List SelectItem} {columns : List String}
    (lowered : Lowering.selectedColumns scope items = .ok columns) :
    selectedColumns? items = some columns ↔ items.flatMap SelectItem.overlooked = [] := by
  unfold Lowering.selectedColumns at lowered
  split at lowered
  · next options =>
      obtain rfl := Except.ok.inj lowered
      simp [selectedColumns?, SelectItem.overlooked]
  · next notEverything =>
      have plain : selectedColumns? items = items.mapM SelectItem.column? := by
        unfold selectedColumns?
        split
        · next options => exact absurd rfl (notEverything options)
        · rfl
      rw [plain]
      refine Outcome.mapM_eq_some_iff_flatMap_eq_nil ?_ lowered
      intro item column found
      obtain ⟨named, nothing, -⟩ := SelectItem.column?_of_selectedColumn found
      exact iff_of_true named nothing

theorem selectedColumns_stripped {items : List SelectItem} {columns : List String}
    (lowered : Lowering.selectedColumns scope items = .ok columns) :
    Lowering.selectedColumns scope (items.map SelectItem.stripped) = .ok columns := by
  unfold Lowering.selectedColumns at lowered
  split at lowered
  · exact lowered
  · next notEverything =>
      have same : items.map SelectItem.stripped = items := by
        refine (List.map_congr_left fun item member => ?_).trans (List.map_id items)
        obtain ⟨column, found⟩ := Outcome.exists_of_mem_of_mapM lowered member
        exact (SelectItem.column?_of_selectedColumn found).2.2
      rw [same]
      unfold Lowering.selectedColumns
      split
      · next options => exact absurd rfl (notEverything options)
      · exact lowered

namespace OrderItem

/-- An item to sort by is its column and direction unless it has options. -/
theorem key?_eq_iff {item : OrderItem} {key : SortKey}
    (lowered : Lowering.sortKey scope item = .ok key) :
    item.key? = some key ↔ item.overlooked = [] := by
  obtain ⟨column, named, same⟩ := Outcome.bind_eq_ok.mp lowered
  obtain rfl := Except.ok.inj same
  rw [overlooked, OverlookedPart.ofText_eq_nil, key?, Expr.columnName?_of_column named]
  simp

theorem overlooked_stripped (item : OrderItem) : item.stripped.overlooked = [] := rfl

end OrderItem

theorem Expr.count?_of_count {expression : Expr} {number : Nat}
    (lowered : Lowering.count expression = .ok number) : expression.count? = some number := by
  obtain ⟨literal, found, rest⟩ := Outcome.bind_eq_ok.mp lowered
  rw [count?, (literal_eq_ok_iff _ _).mp found]
  cases literal with
  | number numeral =>
      cases counted : Text.count? numeral with
      | none => simp [counted, throw, throwThe, MonadExceptOf.throw] at rest
      | some value =>
          simp only [counted] at rest
          obtain rfl := Except.ok.inj rest
          exact (Option.filter_eq_some_iff.mp counted).1
  | _ => simp [throw, throwThe, MonadExceptOf.throw] at rest

/-- A clause is read as the number of rows that it gives. -/
theorem clauseCount?_of_count? {clause? : Option Expr} {count? : Option Nat}
    (lowered : Lowering.count? clause? = .ok count?) : clauseCount? clause? = some count? := by
  cases clause? with
  | none => exact congrArg some (Except.ok.inj lowered)
  | some expression =>
      obtain ⟨number, found, rfl⟩ := Outcome.map_eq_ok.mp lowered
      rw [clauseCount?, Expr.count?_of_count found]
      rfl

theorem BinaryOperator.change?_of_change {operator : BinaryOperator} {change : Change}
    (lowered : Lowering.change operator = .ok change) : operator.change? = some change := by
  cases operator <;> simp_all [Lowering.change, change?]

theorem Expr.assigned?_of_assignedValue {expression : Expr} {value : AssignedValue}
    (lowered : Lowering.assignedValue scope expression = .ok value) :
    expression.assigned? = some value := by
  unfold Lowering.assignedValue at lowered
  split at lowered
  · next operator left right =>
      split at lowered
      · next name =>
          obtain ⟨column, resolved, rest⟩ := Outcome.bind_eq_ok.mp lowered
          obtain ⟨amount, found, rest⟩ := Outcome.bind_eq_ok.mp rest
          obtain ⟨change, changed, same⟩ := Outcome.bind_eq_ok.mp rest
          obtain rfl := Except.ok.inj same
          simp [assigned?, columnName?, columnName?_of_resolve resolved,
            BinaryOperator.change?_of_change changed, (literal_eq_ok_iff _ _).mp found]
      · simp at lowered
  · next notBinary =>
      obtain ⟨literal, found, rfl⟩ := Outcome.map_eq_ok.mp lowered
      rw [assigned?]
      · rw [(literal_eq_ok_iff _ _).mp found]
        rfl
      · exact notBinary

/-- A clause of SET is read as the assignment that it makes. -/
theorem SetClause.assignment?_of_assignment {clause : SetClause} {assignment : Assignment}
    (lowered : Lowering.assignment scope clause = .ok assignment) :
    clause.assignment? = some assignment := by
  unfold Lowering.assignment at lowered
  split at lowered
  · next name target =>
      obtain ⟨column, resolved, rest⟩ := Outcome.bind_eq_ok.mp lowered
      obtain ⟨value, assigned, same⟩ := Outcome.bind_eq_ok.mp rest
      obtain rfl := Except.ok.inj same
      simp [assignment?, target, Expr.columnName?, Expr.columnName?_of_resolve resolved,
        Expr.assigned?_of_assignedValue assigned]
  · simp at lowered

/-- Rows of constants are read as what they denote. -/
theorem constants_of_rows {rows : List (List Expr)} {literals : List (List Literal)}
    (lowered : (rows.mapM fun row => row.mapM Lowering.literal) = .ok literals) :
    (rows.mapM fun row => row.mapM Expr.constant?) = some literals := by
  rw [Outcome.mapM_eq_some]
  refine (Outcome.mapM_eq_ok.mp lowered).imp fun row values found => ?_
  rw [Outcome.mapM_eq_some]
  exact (Outcome.mapM_eq_ok.mp found).imp fun _ _ => (Expr.literal_eq_ok_iff _ _).mp

end Sql

end OrmCode
