import OrmCode.Lowering.Statement
import OrmCode.Proofs.Meaning.Condition

/-!
# What statements do to a table

A statement reads, adds, changes or removes rows of one table.  A parsed
statement has such an effect if it has no part beyond those that make up the
effect; quotes, qualifiers of columns, aliases and parentheses are only notation.
-/

namespace OrmCode

/-- What a statement asks of the rows of a table.  A condition that cannot be
expressed by comparators has no value. -/
inductive Effect (Value : Type)
  | read (table : String) (columns : List String) (keeps : Row Value → Option Truth)
      (order : List SortKey) (limit? offset? : Option Nat)
  | add (table : String) (columns : List String) (rows : List (List Literal))
  | change (table : String) (assignments : List Assignment) (keeps : Row Value → Option Truth)
  | remove (table : String) (keeps : Row Value → Option Truth)

/-- The rows that pass a filter; without a filter all of them do. -/
def Filter.keeps {Value : Type} (meaning : Meaning Value) (filter? : Option Filter)
    (row : Row Value) : Option Truth :=
  some (filter?.elim .yes (Filter.truth meaning row))

/-- The effect of a statement on a table that exists. -/
def Statement.effect? {Value : Type} (meaning : Meaning Value) : Statement → Option (Effect Value)
  | select selected =>
    some (.read selected.table selected.columns (Filter.keeps meaning selected.filter?)
      selected.order selected.limit? selected.offset?)
  | insert inserted => some (.add inserted.table inserted.columns inserted.rows)
  | update updated =>
    some (.change updated.table updated.assignments (Filter.keeps meaning updated.filter?))
  | delete deleted => some (.remove deleted.table (Filter.keeps meaning deleted.filter?))
  | _ => none

namespace Sql

variable {Value : Type}

/-- The rows that pass a condition; without a condition all of them do. -/
def keeps (meaning : Meaning Value) (condition? : Option Expr) (row : Row Value) : Option Truth :=
  condition?.elim (some .yes) (Expr.truth? meaning row)

/-- The table that a name without qualifiers names. -/
def namedTable? : QualifiedName → Option String
  | [name] => some name.text
  | _ => none

/-- The table that rows come from, if nothing is said about it but an alias. -/
def TableReference.table? (reference : TableReference) : Option String :=
  match reference.relation with
  | .named name arguments _ aliasColumns hints =>
    if arguments = "" ∧ aliasColumns = "" ∧ hints = "" ∧ reference.joins.isEmpty then
      namedTable? name
    else none
  | .other _ _ => none

/-- The only table among some sources of rows. -/
def onlyTable? : List TableReference → Option String
  | [reference] => reference.table?
  | _ => none

def SelectItem.column? : SelectItem → Option String
  | unnamed expression => expression.columnName?
  | _ => none

/-- The selected columns, where everything is no columns. -/
def selectedColumns? : List SelectItem → Option (List String)
  | [.everything options] => if options = "" then some [] else none
  | items => items.mapM SelectItem.column?

/-- The column that an item sorts by, with its direction and nothing else. -/
def OrderItem.key? (item : OrderItem) : Option SortKey :=
  if item.options = "" then
    item.expression.columnName?.map fun column => ⟨column, item.direction?.getD true⟩
  else none

/-- The number of rows that an expression gives, if it is whole. -/
def Expr.count? (expression : Expr) : Option Nat :=
  match expression.constant? with
  | some (.number numeral) => Text.wholeNumber? numeral
  | _ => none

/-- The number of rows that a clause gives, if there is such a clause. -/
def clauseCount? : Option Expr → Option (Option Nat)
  | none => some none
  | some expression => expression.count?.map some

/-- Whether a query is surrounded by no clauses but order and counts. -/
def Query.isBare (query : Query) : Bool :=
  [query.commonTables, query.interpolation, query.limitBy, query.parameters, query.fetch,
    query.locks, query.form].all (· == "")

/-- Whether a SELECT has no clauses but items, sources and a condition. -/
def Select.isBare (selected : Select) : Bool :=
  [selected.kind, selected.distinct, selected.top, selected.into, selected.lateralViews,
    selected.prewhere, selected.groupBy, selected.distribution, selected.having,
    selected.windows, selected.hierarchy].all (· == "")

def Query.effect? (meaning : Meaning Value) (query : Query) : Option (Effect Value) :=
  match query.body with
  | .select selected =>
    if query.isBare && selected.isBare then do
      let table ← onlyTable? selected.sources
      let columns ← selectedColumns? selected.items
      let order ← query.order.mapM OrderItem.key?
      let limit? ← clauseCount? query.limit?
      let offset? ← clauseCount? query.offset?
      return .read table columns (keeps meaning selected.condition?) order limit? offset?
    else none
  | _ => none

/-- The rows that a query lists, if it does nothing else. -/
def Query.rows? (query : Query) : Option (List (List Literal)) :=
  match query.body with
  | .values _ rows =>
    if query.isBare && query.order.isEmpty && query.limit?.isNone && query.offset?.isNone then
      rows.mapM fun row => row.mapM Expr.constant?
    else none
  | _ => none

/-- Whether an INSERT has no clauses but columns and rows. -/
def Insert.isBare (inserted : Insert) : Bool :=
  !inserted.conflict && !inserted.ignoring && !inserted.replacing && !inserted.overwriting &&
    inserted.partition == "" && inserted.columnsAfterPartition.isEmpty && !inserted.onDuplicate &&
    !inserted.returning

def Insert.effect? (inserted : Insert) : Option (Effect Value) :=
  if inserted.isBare then do
    let table ← namedTable? inserted.table
    let source ← inserted.source?
    return .add table (inserted.columns.map Name.text) (← source.rows?)
  else none

/-- The change that an arithmetic operator makes to a column. -/
def BinaryOperator.change? : BinaryOperator → Option Change
  | plus => some .addition
  | minus => some .subtraction
  | _ => none

/-- The value that an expression of SET gives a column: a constant, or a column
changed by one. -/
def Expr.assigned? : Expr → Option AssignedValue
  | .binary operator left right => do
    return .changed (← left.columnName?) (← operator.change?) (← right.constant?)
  | expression => expression.constant?.map .literal

def SetClause.assignment? (clause : SetClause) : Option Assignment :=
  match clause.target with
  | .column name => do
    return { column := ← (Expr.column name).columnName?, value := ← clause.value.assigned? }
  | .tuple _ => none

def UpdateStatement.effect? (meaning : Meaning Value) (updated : UpdateStatement) :
    Option (Effect Value) :=
  if !updated.conflict && !updated.hasFrom && !updated.returning then do
    let table ← updated.table.table?
    let assignments ← updated.assignments.mapM SetClause.assignment?
    return .change table assignments (keeps meaning updated.condition?)
  else none

def DeleteStatement.effect? (meaning : Meaning Value) (deleted : DeleteStatement) :
    Option (Effect Value) :=
  if deleted.tables.isEmpty && !deleted.hasUsing && !deleted.returning && deleted.order.isEmpty &&
      deleted.limit?.isNone then do
    let table ← onlyTable? deleted.sources
    return .remove table (keeps meaning deleted.condition?)
  else none

/-- The effect of a parsed statement on a table that exists.  A statement that says anything
else has none, even where that changes no row that is read: locks, named windows and forms of
the output are not told apart from the clauses that do. -/
def ParsedStatement.effect? (meaning : Meaning Value) :
    ParsedStatement → Option (Effect Value)
  | insert inserted => inserted.effect?
  | query selected => selected.effect? meaning
  | update updated => updated.effect? meaning
  | delete deleted => deleted.effect? meaning
  | _ => none

end Sql

end OrmCode
