import OrmCode.Lowering.Filter
import OrmCode.Lowering.Table

/-!
# Statements

A parsed statement becomes a statement that code is made of, or is refused for
the first construct that no code is made of.
-/

namespace OrmCode

namespace Lowering

def rows (source : Sql.Query) : Except Unsupported (List (List Literal)) :=
  match source.body with
  | .values _ [] => .error (.clause .insertNoRows)
  -- What stands around the rows, such as an order or a LIMIT, is not looked at.
  | .values _ rows => rows.mapM fun row => row.mapM literal
  | _ => .error (.clause .insertSelect)

def insertion (inserted : Sql.Insert) : Except Unsupported Insertion := do
  refuseIf inserted.onDuplicate .insertConflictTarget
  refuseIf inserted.ignoring .insertIgnore
  refuseIf inserted.replacing .replaceInto
  refuseIf inserted.conflict .insertConflictAction
  refuseIf inserted.returning .insertReturning
  let table ← tableName inserted.table
  match inserted.source? with
  | none => throw (.clause .insertWithoutValues)
  | some source =>
    return { table, columns := inserted.columns.map Sql.Name.text, rows := ← rows source }

/-- The column that one of several selected items is. -/
def selectedColumn (scope : Scope) : Sql.SelectItem → Except Unsupported String
  | .unnamed expression => scope.column expression
  | .aliased expression label => .error (.columnAlias expression.write label.write)
  | .everything _ => .error (.clause .mixedWildcard)
  | .everythingOf _ _ => .error (.clause .mixedWildcard)

/-- The selected columns; everything is no columns. -/
def selectedColumns (scope : Scope) : List Sql.SelectItem → Except Unsupported (List String)
  -- What stands after the asterisk, such as EXCEPT, is not looked at.
  | [.everything _] => .ok []
  | items => items.mapM (selectedColumn scope)

def sortKey (scope : Scope) (item : Sql.OrderItem) : Except Unsupported SortKey := do
  let column ← scope.column item.expression
  -- The place of NULL in the order is not looked at.
  return { column, ascending := item.direction?.getD true }

def selectScope : List Sql.TableReference → Except Unsupported Scope
  | [] => .error (.clause .noSource)
  | [reference] => Scope.ofReference reference
  | _ => .error (.clause .manySources)

/-- The SELECT that a query is, if nothing combines or shortens its rows. -/
def plainSelect (query : Sql.Query) : Except Unsupported Sql.Select := do
  refuseIf (query.commonTables != "") .commonTables
  refuseIf (query.fetch != "") .fetch
  match query.body with
  | .select selected =>
    refuseIf (selected.distinct != "") .distinct
    refuseIf (selected.groupBy != "") .groupBy
    refuseIf (selected.having != "") .having
    refuseIf (selected.top != "") .top
    return selected
  | _ => throw (.clause .setOperation)

def selection (query : Sql.Query) : Except Unsupported Selection := do
  let selected ← plainSelect query
  let scope ← selectScope selected.sources
  let columns ← selectedColumns scope selected.items
  let filter? ← filter? scope selected.condition?
  let order ← query.order.mapM (sortKey scope)
  let limit? ← count? query.limit?
  let offset? ← count? query.offset?
  return { table := scope.table, columns, filter?, order, limit?, offset? }

/-- The change that an operator makes to a column. -/
def change (operator : Sql.BinaryOperator) : Except Unsupported Change :=
  match operator with
  | .plus => .ok .addition
  | .minus => .ok .subtraction
  | other => .error (.assignmentOperator other.write)

/-- The new value that an expression gives a column. -/
def assignedValue (scope : Scope) : Sql.Expr → Except Unsupported AssignedValue
  | .binary operator left right =>
    match left with
    | .column name => do
      let column ← scope.resolve name
      let amount ← literal right
      return .changed column (← change operator) amount
    | _ => .error (.clause .arithmeticStart)
  | expression => (literal expression).map .literal

def assignment (scope : Scope) (clause : Sql.SetClause) : Except Unsupported Assignment :=
  match clause.target with
  | .column name => do
    let column ← scope.resolve name
    return { column, value := ← assignedValue scope clause.value }
  | .tuple _ => .error (.clause .tupleAssignment)

def update (updated : Sql.UpdateStatement) : Except Unsupported Update := do
  refuseIf updated.hasFrom .updateFrom
  refuseIf updated.returning .updateReturning
  refuseIf updated.conflict .updateConflictAction
  let scope ← Scope.ofReference updated.table
  let assignments ← updated.assignments.mapM (assignment scope)
  return { table := scope.table, assignments, filter? := ← filter? scope updated.condition? }

def deleteScope : List Sql.TableReference → Except Unsupported Scope
  | [] => .error (.clause .deleteNoTable)
  | [reference] => Scope.ofReference reference
  | _ => .error (.clause .deleteManyTables)

def deletion (deleted : Sql.DeleteStatement) : Except Unsupported Deletion := do
  refuseIf (!deleted.tables.isEmpty) .deleteManyTables
  refuseIf deleted.hasUsing .deleteUsing
  refuseIf deleted.returning .deleteReturning
  refuseIf (!deleted.order.isEmpty) .deleteOrder
  refuseIf deleted.limit?.isSome .deleteLimit
  let scope ← deleteScope deleted.sources
  return { table := scope.table, filter? := ← filter? scope deleted.condition? }

def statement : Sql.ParsedStatement → Except Unsupported Statement
  | .create created => (definition created).map .create
  | .insert inserted => (insertion inserted).map .insert
  | .query query => (selection query).map .select
  | .update updated => (update updated).map .update
  | .delete deleted => (deletion deleted).map .delete
  | .other firstWord => .ok (.unsupported (Text.lower firstWord))

end Lowering

end OrmCode
