import OrmCode.Proofs.Meaning.Parts

/-!
# Lowering keeps the effect of statements

A lowered statement asks of its table what the parsed one does, except for the
parts that are overlooked.  Every clause that is neither recorded nor overlooked
is refused, so the overlooked parts are the only ones that can get lost.
-/

namespace OrmCode

namespace Sql

variable {Value : Type}

theorem refuseIf_eq_ok {present : Bool} {which : Lowering.Clause} {done : Unit} :
    Lowering.refuseIf present which = .ok done ↔ present = false := by
  cases present <;> simp [Lowering.refuseIf]

namespace Query

/-- A query is a plain SELECT if it has none of the clauses that are refused. -/
theorem plainSelect_eq_ok {query : Query} {selected : Select} :
    Lowering.plainSelect query = .ok selected ↔
      query.body = .select selected ∧ query.commonTables = "" ∧ query.fetch = "" ∧
        selected.distinct = "" ∧ selected.groupBy = "" ∧ selected.having = "" ∧
        selected.top = "" := by
  unfold Lowering.plainSelect
  cases body : query.body with
  | select inner =>
      simp only [Outcome.bind_eq_ok, refuseIf_eq_ok, bne_eq_false_iff_eq, pure, Except.pure,
        Except.ok.injEq, QueryBody.select.injEq, exists_and_left, exists_const]
      constructor
      · rintro ⟨commonTables, fetch, distinct, groupBy, having, top, rfl⟩
        exact ⟨rfl, commonTables, fetch, distinct, groupBy, having, top⟩
      · rintro ⟨rfl, commonTables, fetch, distinct, groupBy, having, top⟩
        exact ⟨commonTables, fetch, distinct, groupBy, having, top, rfl⟩
  | _ =>
      simp [Outcome.bind_eq_ok, throw, throwThe, MonadExceptOf.throw]

theorem selectScope_eq_ok {sources : List TableReference} {scope : Lowering.Scope} :
    Lowering.selectScope sources = .ok scope ↔
      ∃ reference, sources = [reference] ∧ Lowering.Scope.ofReference reference = .ok scope := by
  match sources with
  | [] => simp [Lowering.selectScope]
  | [reference] => simp [Lowering.selectScope]
  | first :: second :: others => simp [Lowering.selectScope]

/-- A selection records the table, columns, condition, order and counts of a
plain SELECT, each lowered on its own. -/
theorem selection_eq_ok {query : Query} {selection : Selection} :
    Lowering.selection query = .ok selection ↔
      ∃ selected reference scope, Lowering.plainSelect query = .ok selected ∧
        selected.sources = [reference] ∧ Lowering.Scope.ofReference reference = .ok scope ∧
        scope.table = selection.table ∧
        Lowering.selectedColumns scope selected.items = .ok selection.columns ∧
        Lowering.filter? scope selected.condition? = .ok selection.filter? ∧
        query.order.mapM (Lowering.sortKey scope) = .ok selection.order ∧
        Lowering.count? query.limit? = .ok selection.limit? ∧
        Lowering.count? query.offset? = .ok selection.offset? := by
  constructor
  · intro lowered
    obtain ⟨selected, plain, rest⟩ := Outcome.bind_eq_ok.mp lowered
    obtain ⟨scope, found, rest⟩ := Outcome.bind_eq_ok.mp rest
    obtain ⟨columns, columnsLowered, rest⟩ := Outcome.bind_eq_ok.mp rest
    obtain ⟨filter?, filterLowered, rest⟩ := Outcome.bind_eq_ok.mp rest
    obtain ⟨order, orderLowered, rest⟩ := Outcome.bind_eq_ok.mp rest
    obtain ⟨limit?, limitLowered, rest⟩ := Outcome.bind_eq_ok.mp rest
    obtain ⟨offset?, offsetLowered, same⟩ := Outcome.bind_eq_ok.mp rest
    obtain rfl := Except.ok.inj same
    obtain ⟨reference, only, referenceLowered⟩ := selectScope_eq_ok.mp found
    exact ⟨selected, reference, scope, plain, only, referenceLowered, rfl, columnsLowered,
      filterLowered, orderLowered, limitLowered, offsetLowered⟩
  · rintro ⟨selected, reference, scope, plain, only, referenceLowered, table, columnsLowered,
      filterLowered, orderLowered, limitLowered, offsetLowered⟩
    have found : Lowering.selectScope selected.sources = .ok scope :=
      selectScope_eq_ok.mpr ⟨reference, only, referenceLowered⟩
    obtain ⟨table', columns, filter?, order, limit?, offset?⟩ := selection
    obtain rfl := table
    simp only at columnsLowered filterLowered orderLowered limitLowered offsetLowered
    simp [Lowering.selection, plain, found, columnsLowered, filterLowered, orderLowered,
      limitLowered, offsetLowered, bind, Except.bind, pure, Except.pure]

theorem effect?_eq_some_iff {meaning : Meaning Value} {query : Query} {table : String}
    {columns : List String} {kept : Row Value → Option Truth} {order : List SortKey}
    {limit? offset? : Option Nat} :
    query.effect? meaning = some (.read table columns kept order limit? offset?) ↔
      ∃ selected, query.body = .select selected ∧ query.isBare = true ∧ selected.isBare = true ∧
        onlyTable? selected.sources = some table ∧
        selectedColumns? selected.items = some columns ∧
        query.order.mapM OrderItem.key? = some order ∧ clauseCount? query.limit? = some limit? ∧
        clauseCount? query.offset? = some offset? ∧
        keeps meaning selected.condition? = kept := by
  unfold effect?
  cases body : query.body with
  | select selected =>
      by_cases bare : (query.isBare && selected.isBare) = true
      · simp only [if_pos bare, QueryBody.select.injEq, exists_eq_left']
        rw [Bool.and_eq_true] at bare
        simp only [bare, true_and, Option.bind_eq_bind, Option.bind_eq_some_iff, pure,
          Option.some.injEq, Effect.read.injEq]
        constructor
        · rintro ⟨_, found, _, columnsFound, _, orderFound, _, limitFound, _, offsetFound, rfl, rfl,
            kept, rfl, rfl, rfl⟩
          exact ⟨found, columnsFound, orderFound, limitFound, offsetFound, kept⟩
        · rintro ⟨found, columnsFound, orderFound, limitFound, offsetFound, kept⟩
          exact ⟨_, found, _, columnsFound, _, orderFound, _, limitFound, _, offsetFound, rfl, rfl,
            kept, rfl, rfl, rfl⟩
      · simp only [if_neg bare, QueryBody.select.injEq, exists_eq_left']
        simp only [Bool.and_eq_true, not_and] at bare
        refine iff_of_false (by simp) ?_
        rintro ⟨queryBare, selectBare, -⟩
        exact bare queryBare selectBare
  | _ => simp

/-- A SELECT has the effect of its selection unless something in it is overlooked. -/
theorem effect?_eq_iff [Inhabited Value] (meaning : Meaning Value) {query : Query}
    {selection : Selection} (lowered : Lowering.selection query = .ok selection) :
    query.effect? meaning = (Statement.select selection).effect? meaning ↔
      query.overlooked = [] := by
  obtain ⟨selected, reference, scope, plain, only, referenceLowered, table, columnsLowered,
    filterLowered, orderLowered, limitLowered, offsetLowered⟩ := selection_eq_ok.mp lowered
  obtain ⟨body, commonTables, fetch, distinct, groupBy, having, top⟩ :=
    plainSelect_eq_ok.mp plain
  have tableFound := TableReference.table?_eq_iff referenceLowered
  have columnsFound := selectedColumns?_eq_iff columnsLowered
  have orderFound := Outcome.mapM_eq_some_iff_flatMap_eq_nil
    (fun _ _ => OrderItem.key?_eq_iff) orderLowered
  have filterFound := keeps_eq_iff meaning filterLowered
  have queryBare : query.isBare = true ↔ query.overlookedAround = [] := by
    simp [isBare, overlookedAround, commonTables, fetch]
  -- Each component of the effect is kept exactly if its own parts are not overlooked;
  -- what remains is to bring the two lists of conditions into one order.
  rw [Statement.effect?, effect?_eq_some_iff]
  simp only [body, QueryBody.select.injEq, exists_eq_left', queryBare, only, onlyTable?, ← table,
    tableFound, columnsFound, orderFound, clauseCount?_of_count? limitLowered,
    clauseCount?_of_count? offsetLowered, filterFound, overlooked, Select.overlooked,
    List.append_eq_nil_iff, List.flatMap_cons, List.flatMap_nil, List.append_nil, true_and]
  simp only [Select.isBare, distinct, top, groupBy, having, OverlookedPart.ofText_eq_nil,
    List.all_cons, List.all_nil, Bool.and_true, Bool.and_eq_true, beq_iff_eq, beq_self_eq_true,
    true_and, and_assoc]
  constructor
  · rintro ⟨around, kind, into, views, prewhere, distribution, windows, hierarchy, source, items,
      order, condition⟩
    exact ⟨around, order, kind, into, views, prewhere, distribution, windows, hierarchy, items,
      source, condition⟩
  · rintro ⟨around, order, kind, into, views, prewhere, distribution, windows, hierarchy, items,
      source, condition⟩
    exact ⟨around, kind, into, views, prewhere, distribution, windows, hierarchy, source, items,
      order, condition⟩

/-- Without its overlooked parts a SELECT becomes the same selection. -/
theorem selection_stripped {query : Query} {selection : Selection}
    (lowered : Lowering.selection query = .ok selection) :
    Lowering.selection query.stripped = .ok selection := by
  obtain ⟨selected, reference, scope, plain, only, referenceLowered, table, columnsLowered,
    filterLowered, orderLowered, limitLowered, offsetLowered⟩ := selection_eq_ok.mp lowered
  obtain ⟨body, clauses⟩ := plainSelect_eq_ok.mp plain
  refine selection_eq_ok.mpr ⟨selected.stripped, reference.stripped, scope,
    plainSelect_eq_ok.mpr ⟨?_, clauses⟩, ?_, TableReference.ofReference_stripped referenceLowered,
    table, selectedColumns_stripped columnsLowered, filter?_stripped filterLowered,
    Outcome.mapM_map_eq_ok (fun _ _ found => found) orderLowered, limitLowered, offsetLowered⟩
  · rw [stripped, body]
  · rw [Select.stripped, only, List.map_singleton]

theorem overlooked_stripped {query : Query} {selection : Selection}
    (lowered : Lowering.selection query = .ok selection) : query.stripped.overlooked = [] := by
  obtain ⟨selected, -, -, plain, -⟩ := selection_eq_ok.mp lowered
  have body := (plainSelect_eq_ok.mp plain).1
  simp [stripped, overlooked, overlookedAround, body, Select.stripped, Select.overlooked,
    List.flatMap_map, SelectItem.overlooked_stripped, TableReference.overlooked_stripped,
    OrderItem.overlooked_stripped, overlookedCondition_stripped]

end Query

namespace Insert

/-- An insertion records the table, columns and rows of an INSERT without the
clauses that are refused. -/
theorem insertion_eq_ok {inserted : Insert} {insertion : Insertion} :
    Lowering.insertion inserted = .ok insertion ↔
      inserted.onDuplicate = false ∧ inserted.ignoring = false ∧ inserted.replacing = false ∧
        inserted.conflict = false ∧ inserted.returning = false ∧
        Lowering.tableName inserted.table = .ok insertion.table ∧
        inserted.columns.map Name.text = insertion.columns ∧
        ∃ source, inserted.source? = some source ∧
          Lowering.rows source = .ok insertion.rows := by
  obtain ⟨table, columns, rows⟩ := insertion
  unfold Lowering.insertion
  simp only [Outcome.bind_eq_ok, refuseIf_eq_ok, exists_and_left, exists_const]
  refine and_congr_right' (and_congr_right' (and_congr_right' (and_congr_right'
    (and_congr_right' ?_))))
  cases inserted.source? with
  | none => simp [throw, throwThe, MonadExceptOf.throw]
  | some source =>
      simp only [Outcome.bind_eq_ok, Option.some.injEq, exists_eq_left', pure, Except.pure,
        Except.ok.injEq, Insertion.mk.injEq]
      constructor
      · rintro ⟨_, named, _, found, rfl, rfl, rfl⟩
        exact ⟨named, rfl, found⟩
      · rintro ⟨named, rfl, found⟩
        exact ⟨_, named, _, found, rfl, rfl, rfl⟩

theorem rows_eq_ok {source : Query} {rows : List (List Literal)}
    (lowered : Lowering.rows source = .ok rows) :
    ∃ explicitRows listed, source.body = .values explicitRows listed ∧
      (listed.mapM fun row => row.mapM Lowering.literal) = .ok rows := by
  unfold Lowering.rows at lowered
  split at lowered
  · simp at lowered
  · next explicitRows listed _ body => exact ⟨explicitRows, listed, body, lowered⟩
  · simp at lowered

/-- A query lists exactly its rows unless a clause around them is overlooked. -/
theorem rows?_eq_iff {source : Query} {rows : List (List Literal)}
    (lowered : Lowering.rows source = .ok rows) :
    source.rows? = some rows ↔ source.overlookedOfRows = [] := by
  obtain ⟨explicitRows, listed, body, found⟩ := rows_eq_ok lowered
  have bare : (source.isBare && source.order.isEmpty && source.limit?.isNone &&
      source.offset?.isNone) = true ↔ source.overlookedOfRows = [] := by
    simp only [Query.isBare, Query.overlookedOfRows, Query.overlookedAround, List.all_cons,
      List.all_nil, Bool.and_true, Bool.and_eq_true, beq_iff_eq, List.append_eq_nil_iff,
      OverlookedPart.ofText_eq_nil, OverlookedPart.onlyIf_eq_nil, Bool.not_eq_false',
      Option.isSome_eq_false_iff, and_assoc]
    constructor
    · rintro ⟨tables, interpolation, limitBy, parameters, fetch, locks, form, order, limit, offset⟩
      exact ⟨interpolation, limitBy, parameters, locks, form, tables, order, limit, offset, fetch⟩
    · rintro ⟨interpolation, limitBy, parameters, locks, form, tables, order, limit, offset, fetch⟩
      exact ⟨tables, interpolation, limitBy, parameters, fetch, locks, form, order, limit, offset⟩
  rw [← bare, Query.rows?, body]
  simp only [constants_of_rows found]
  simp [and_assoc]

/-- An INSERT has the effect of its insertion unless something in it is overlooked. -/
theorem effect?_eq_iff (meaning : Meaning Value) {inserted : Insert} {insertion : Insertion}
    (lowered : Lowering.insertion inserted = .ok insertion) :
    inserted.effect? = (Statement.insert insertion).effect? meaning ↔
      inserted.overlooked = [] := by
  obtain ⟨onDuplicate, ignoring, replacing, conflict, returning, named, columns, source, given,
    found⟩ := insertion_eq_ok.mp lowered
  have tableFound := namedTable?_eq_iff named
  have rowsFound := rows?_eq_iff found
  have bare : inserted.isBare = true ↔ inserted.overwriting = false ∧ inserted.partition = "" ∧
      inserted.columnsAfterPartition = [] := by
    simp [isBare, onDuplicate, ignoring, replacing, conflict, returning, and_assoc]
  have nothing : inserted.overlooked = [] ↔ namedTable? inserted.table = some insertion.table ∧
      inserted.isBare = true ∧ source.rows? = some insertion.rows := by
    rw [tableFound, rowsFound, bare]
    simp [overlooked, given, and_assoc]
  rw [nothing, effect?, Statement.effect?]
  by_cases isBare : inserted.isBare = true
  · simp [isBare, given, columns, Option.bind_eq_some_iff]
  · simp [isBare]

theorem insertion_stripped {inserted : Insert} {insertion : Insertion}
    (lowered : Lowering.insertion inserted = .ok insertion) :
    Lowering.insertion inserted.stripped = .ok insertion := by
  obtain ⟨onDuplicate, ignoring, replacing, conflict, returning, named, columns, source, given,
    found⟩ := insertion_eq_ok.mp lowered
  refine insertion_eq_ok.mpr ⟨onDuplicate, ignoring, replacing, conflict, returning,
    tableName_bareName named, columns, { body := source.body }, ?_, found⟩
  rw [stripped, given]
  rfl

theorem overlooked_stripped (inserted : Insert) : inserted.stripped.overlooked = [] := by
  cases given : inserted.source? with
  | none => simp [stripped, overlooked, overlookedInName_bareName, given]
  | some source =>
      simp [stripped, overlooked, overlookedInName_bareName, given, Query.overlookedOfRows,
        Query.overlookedAround]

end Insert

namespace UpdateStatement

/-- An update records the table, assignments and condition of an UPDATE without
the clauses that are refused. -/
theorem update_eq_ok {updated : UpdateStatement} {update : Update} :
    Lowering.update updated = .ok update ↔
      updated.hasFrom = false ∧ updated.returning = false ∧ updated.conflict = false ∧
        ∃ scope, Lowering.Scope.ofReference updated.table = .ok scope ∧
          scope.table = update.table ∧
          updated.assignments.mapM (Lowering.assignment scope) = .ok update.assignments ∧
          Lowering.filter? scope updated.condition? = .ok update.filter? := by
  obtain ⟨table, assignments, filter?⟩ := update
  unfold Lowering.update
  simp only [Outcome.bind_eq_ok, refuseIf_eq_ok, exists_and_left, exists_const, pure, Except.pure,
    Except.ok.injEq, Update.mk.injEq]
  refine and_congr_right' (and_congr_right' (and_congr_right' (exists_congr fun scope =>
    and_congr_right' ?_)))
  constructor
  · rintro ⟨_, found, _, filterFound, rfl, rfl, rfl⟩
    exact ⟨rfl, found, filterFound⟩
  · rintro ⟨rfl, found, filterFound⟩
    exact ⟨_, found, _, filterFound, rfl, rfl, rfl⟩

/-- An UPDATE has the effect of its update unless something in it is overlooked. -/
theorem effect?_eq_iff [Inhabited Value] (meaning : Meaning Value) {updated : UpdateStatement}
    {update : Update} (lowered : Lowering.update updated = .ok update) :
    updated.effect? meaning = (Statement.update update).effect? meaning ↔
      updated.overlooked = [] := by
  obtain ⟨hasFrom, returning, conflict, scope, referenceLowered, table, assignmentsLowered,
    filterLowered⟩ := update_eq_ok.mp lowered
  have tableFound := TableReference.table?_eq_iff referenceLowered
  have filterFound := keeps_eq_iff meaning filterLowered
  have assigned : updated.assignments.mapM SetClause.assignment? = some update.assignments := by
    rw [Outcome.mapM_eq_some]
    exact (Outcome.mapM_eq_ok.mp assignmentsLowered).imp fun _ _ =>
      SetClause.assignment?_of_assignment
  rw [overlooked, List.append_eq_nil_iff, ← tableFound, ← filterFound, effect?, Statement.effect?]
  simp [hasFrom, returning, conflict, assigned, table, Option.bind_eq_some_iff]

theorem update_stripped {updated : UpdateStatement} {update : Update}
    (lowered : Lowering.update updated = .ok update) :
    Lowering.update updated.stripped = .ok update := by
  obtain ⟨hasFrom, returning, conflict, scope, referenceLowered, table, assignmentsLowered,
    filterLowered⟩ := update_eq_ok.mp lowered
  exact update_eq_ok.mpr ⟨hasFrom, returning, conflict, scope,
    TableReference.ofReference_stripped referenceLowered, table, assignmentsLowered,
    filter?_stripped filterLowered⟩

theorem overlooked_stripped (updated : UpdateStatement) : updated.stripped.overlooked = [] := by
  simp [stripped, overlooked, TableReference.overlooked_stripped, overlookedCondition_stripped]

end UpdateStatement

namespace DeleteStatement

theorem deleteScope_eq_ok {sources : List TableReference} {scope : Lowering.Scope} :
    Lowering.deleteScope sources = .ok scope ↔
      ∃ reference, sources = [reference] ∧ Lowering.Scope.ofReference reference = .ok scope := by
  match sources with
  | [] => simp [Lowering.deleteScope]
  | [reference] => simp [Lowering.deleteScope]
  | first :: second :: others => simp [Lowering.deleteScope]

/-- A deletion records the table and condition of a DELETE without the clauses
that are refused. -/
theorem deletion_eq_ok {deleted : DeleteStatement} {deletion : Deletion} :
    Lowering.deletion deleted = .ok deletion ↔
      deleted.tables = [] ∧ deleted.hasUsing = false ∧ deleted.returning = false ∧
        deleted.order = [] ∧ deleted.limit? = none ∧
        ∃ reference scope, deleted.sources = [reference] ∧
          Lowering.Scope.ofReference reference = .ok scope ∧ scope.table = deletion.table ∧
          Lowering.filter? scope deleted.condition? = .ok deletion.filter? := by
  obtain ⟨table, filter?⟩ := deletion
  unfold Lowering.deletion
  simp only [Outcome.bind_eq_ok, refuseIf_eq_ok, exists_and_left, exists_const, pure, Except.pure,
    Except.ok.injEq, Deletion.mk.injEq, deleteScope_eq_ok, Bool.not_eq_false',
    List.isEmpty_iff, Option.isSome_eq_false_iff, Option.isNone_iff_eq_none]
  refine and_congr_right' (and_congr_right' (and_congr_right' (and_congr_right'
    (and_congr_right' ?_))))
  constructor
  · rintro ⟨scope, ⟨reference, only, referenceLowered⟩, _, filterFound, rfl, rfl⟩
    exact ⟨reference, only, scope, referenceLowered, rfl, filterFound⟩
  · rintro ⟨reference, only, scope, referenceLowered, rfl, filterFound⟩
    exact ⟨scope, ⟨reference, only, referenceLowered⟩, _, filterFound, rfl, rfl⟩

/-- A DELETE has the effect of its deletion unless something in it is overlooked. -/
theorem effect?_eq_iff [Inhabited Value] (meaning : Meaning Value) {deleted : DeleteStatement}
    {deletion : Deletion} (lowered : Lowering.deletion deleted = .ok deletion) :
    deleted.effect? meaning = (Statement.delete deletion).effect? meaning ↔
      deleted.overlooked = [] := by
  obtain ⟨tables, hasUsing, returning, order, limit, reference, scope, only, referenceLowered,
    table, filterLowered⟩ := deletion_eq_ok.mp lowered
  have tableFound := TableReference.table?_eq_iff referenceLowered
  have filterFound := keeps_eq_iff meaning filterLowered
  rw [overlooked, only, List.flatMap_singleton, List.append_eq_nil_iff, ← tableFound,
    ← filterFound, effect?, Statement.effect?]
  simp [tables, hasUsing, returning, order, limit, only, onlyTable?, table,
    Option.bind_eq_some_iff]

theorem deletion_stripped {deleted : DeleteStatement} {deletion : Deletion}
    (lowered : Lowering.deletion deleted = .ok deletion) :
    Lowering.deletion deleted.stripped = .ok deletion := by
  obtain ⟨tables, hasUsing, returning, order, limit, reference, scope, only, referenceLowered,
    table, filterLowered⟩ := deletion_eq_ok.mp lowered
  refine deletion_eq_ok.mpr ⟨tables, hasUsing, returning, order, limit, reference.stripped, scope,
    ?_, TableReference.ofReference_stripped referenceLowered, table,
    filter?_stripped filterLowered⟩
  rw [stripped, only, List.map_singleton]

theorem overlooked_stripped (deleted : DeleteStatement) : deleted.stripped.overlooked = [] := by
  simp [stripped, overlooked, List.flatMap_map, TableReference.overlooked_stripped,
    overlookedCondition_stripped]

end DeleteStatement

namespace ParsedStatement

variable {parsed : ParsedStatement} {statement : Statement}

theorem isSome_effect?_of_statement (meaning : Meaning Value)
    (lowered : Lowering.statement parsed = .ok statement) :
    (statement.effect? meaning).isSome = parsed.touchesRows := by
  cases parsed with
  | other firstWord =>
      obtain rfl := Except.ok.inj lowered
      rfl
  | _ =>
      obtain ⟨found, -, rfl⟩ := Outcome.map_eq_ok.mp lowered
      rfl

/-- A lowered statement has the effect of the parsed one exactly when nothing in
the parsed one is overlooked. -/
theorem effect?_eq_iff [Inhabited Value] (meaning : Meaning Value)
    (lowered : Lowering.statement parsed = .ok statement) :
    parsed.effect? meaning = statement.effect? meaning ↔ parsed.overlooked = [] := by
  cases parsed with
  | create created =>
      obtain ⟨definition, -, rfl⟩ := Outcome.map_eq_ok.mp lowered
      exact iff_of_true rfl rfl
  | insert inserted =>
      obtain ⟨insertion, found, rfl⟩ := Outcome.map_eq_ok.mp lowered
      exact Insert.effect?_eq_iff meaning found
  | query query =>
      obtain ⟨selection, found, rfl⟩ := Outcome.map_eq_ok.mp lowered
      exact Query.effect?_eq_iff meaning found
  | update updated =>
      obtain ⟨update, found, rfl⟩ := Outcome.map_eq_ok.mp lowered
      exact UpdateStatement.effect?_eq_iff meaning found
  | delete deleted =>
      obtain ⟨deletion, found, rfl⟩ := Outcome.map_eq_ok.mp lowered
      exact DeleteStatement.effect?_eq_iff meaning found
  | other firstWord =>
      obtain rfl := Except.ok.inj lowered
      exact iff_of_true rfl rfl

/-- Without its overlooked parts a statement is lowered to the same statement. -/
theorem statement_stripped (lowered : Lowering.statement parsed = .ok statement) :
    Lowering.statement parsed.stripped = .ok statement := by
  cases parsed with
  | insert inserted =>
      obtain ⟨insertion, found, rfl⟩ := Outcome.map_eq_ok.mp lowered
      exact Outcome.map_eq_ok.mpr ⟨insertion, Insert.insertion_stripped found, rfl⟩
  | query query =>
      obtain ⟨selection, found, rfl⟩ := Outcome.map_eq_ok.mp lowered
      exact Outcome.map_eq_ok.mpr ⟨selection, Query.selection_stripped found, rfl⟩
  | update updated =>
      obtain ⟨update, found, rfl⟩ := Outcome.map_eq_ok.mp lowered
      exact Outcome.map_eq_ok.mpr ⟨update, UpdateStatement.update_stripped found, rfl⟩
  | delete deleted =>
      obtain ⟨deletion, found, rfl⟩ := Outcome.map_eq_ok.mp lowered
      exact Outcome.map_eq_ok.mpr ⟨deletion, DeleteStatement.deletion_stripped found, rfl⟩
  | _ => exact lowered

theorem overlooked_stripped (lowered : Lowering.statement parsed = .ok statement) :
    parsed.stripped.overlooked = [] := by
  cases parsed with
  | query query =>
      obtain ⟨selection, found, -⟩ := Outcome.map_eq_ok.mp lowered
      exact Query.overlooked_stripped found
  | insert inserted => exact inserted.overlooked_stripped
  | update updated => exact updated.overlooked_stripped
  | delete deleted => exact deleted.overlooked_stripped
  | _ => rfl

/-- A statement that reads or changes rows is refused as an unsupported construct
or has the effect of its lowered form, unless it has an overlooked part.  Then its
effect is another one, and it is treated as if it had no such part. -/
theorem effect_kept_unless_overlooked [Inhabited Value] (meaning : Meaning Value)
    (parsed : ParsedStatement) :
    match Lowering.statement parsed with
    | .ok statement =>
      (statement.effect? meaning).isSome = parsed.touchesRows ∧
        (parsed.effect? meaning = statement.effect? meaning ↔ parsed.overlooked = []) ∧
        parsed.stripped.effect? meaning = statement.effect? meaning
    | .error reason => reason.fault.code = "UNSUPPORTED_CONSTRUCT" := by
  cases lowered : Lowering.statement parsed with
  | ok statement =>
      refine ⟨isSome_effect?_of_statement meaning lowered, effect?_eq_iff meaning lowered, ?_⟩
      exact (effect?_eq_iff meaning (statement_stripped lowered)).mpr (overlooked_stripped lowered)
  | error reason => rfl

/-- A LIMIT after the rows of an INSERT is overlooked. -/
example :
    let inserted : Insert :=
      { table := [⟨"t", none⟩]
        columns := [⟨"a", none⟩]
        source? := some
          { body := .values false [[.value (.number "1" false)]]
            limit? := some (.value (.number "0" false)) } }
    Lowering.statement (.insert inserted) = .ok (.insert ⟨"t", ["a"], [[.number "1"]]⟩) ∧
      (ParsedStatement.insert inserted).overlooked = [.limitOfRows] :=
  ⟨rfl, rfl⟩

end ParsedStatement

end Sql

end OrmCode
