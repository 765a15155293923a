import OrmCode.Proofs.Meaning.Effect

/-!
# What lowering overlooks

Lowering refuses most clauses that no code is made of, but some it does not look
at.  A statement that it accepts has the effect of its lowered form exactly when
it has none of these parts, and otherwise it is treated as if it had none.
-/

namespace OrmCode

namespace Sql

/-- A part of a statement that lowering does not look at. -/
inductive OverlookedPart
  | patternEscape
  | anyPattern
  | tableQualifiers
  | tableArguments
  | aliasColumns
  | tableHints
  | wildcardOptions
  | sortOptions
  | selectKind
  | intoTable
  | lateralViews
  | prewhere
  | distribution
  | windows
  | hierarchy
  | interpolation
  | limitBy
  | parameters
  | locks
  | outputForm
  | overwriting
  | partition
  | columnsAfterPartition
  | queriesBeforeRows
  | orderOfRows
  | limitOfRows
  | offsetOfRows
  | fetchOfRows
  deriving DecidableEq

namespace OverlookedPart

/-- A part that is there if a condition holds. -/
def onlyIf (part : OverlookedPart) (present : Bool) : List OverlookedPart :=
  if present then [part] else []

def ofText (part : OverlookedPart) (text : String) : List OverlookedPart :=
  part.onlyIf (text != "")

@[simp] theorem onlyIf_eq_nil {part : OverlookedPart} {present : Bool} :
    part.onlyIf present = [] ↔ present = false := by
  cases present <;> simp [onlyIf]

@[simp] theorem ofText_eq_nil {part : OverlookedPart} {text : String} :
    part.ofText text = [] ↔ text = "" := by
  simp [ofText]

end OverlookedPart

open OverlookedPart (ofText onlyIf)

namespace Expr

def overlooked : Expr → List OverlookedPart
  | nested inner => inner.overlooked
  | not operand => operand.overlooked
  | binary _ left right => left.overlooked ++ right.overlooked
  | like _ _ any _ _ escape? =>
    onlyIf .anyPattern any ++ onlyIf .patternEscape escape?.isSome
  | _ => []

/-- The condition without its overlooked parts. -/
def stripped : Expr → Expr
  | nested inner => nested inner.stripped
  | not operand => not operand.stripped
  | binary operator left right => binary operator left.stripped right.stripped
  | like kind negated _ subject pattern _ => like kind negated false subject pattern none
  | expression => expression

end Expr

def overlookedInName (name : QualifiedName) : List OverlookedPart :=
  onlyIf .tableQualifiers (1 < name.length)

/-- The name of a table without its qualifiers. -/
def bareName (name : QualifiedName) : QualifiedName :=
  name.getLast?.toList

/-- The overlooked parts of a source of rows. -/
def TableReference.overlooked (reference : TableReference) : List OverlookedPart :=
  match reference.relation with
  | .named name arguments _ columns hints =>
    overlookedInName name ++ ofText .tableArguments arguments ++ ofText .aliasColumns columns ++
      ofText .tableHints hints
  | .other _ _ => []

/-- The source of rows without its overlooked parts. -/
def TableReference.stripped (reference : TableReference) : TableReference :=
  match reference.relation with
  | .named name _ alias? _ _ =>
    { reference with relation := .named (bareName name) "" alias? "" "" }
  | .other _ _ => reference

def SelectItem.overlooked : SelectItem → List OverlookedPart
  | everything options => ofText .wildcardOptions options
  | _ => []

/-- The selected item without its overlooked parts. -/
def SelectItem.stripped : SelectItem → SelectItem
  | everything _ => everything ""
  | item => item

def OrderItem.overlooked (item : OrderItem) : List OverlookedPart :=
  ofText .sortOptions item.options

/-- The item to sort by without its overlooked parts. -/
def OrderItem.stripped (item : OrderItem) : OrderItem :=
  { item with options := "" }

/-- The overlooked parts of an optional condition. -/
def overlookedCondition (condition? : Option Expr) : List OverlookedPart :=
  condition?.elim [] Expr.overlooked

def Select.overlooked (selected : Select) : List OverlookedPart :=
  ofText .selectKind selected.kind ++ ofText .intoTable selected.into ++
    ofText .lateralViews selected.lateralViews ++ ofText .prewhere selected.prewhere ++
    ofText .distribution selected.distribution ++ ofText .windows selected.windows ++
    ofText .hierarchy selected.hierarchy ++ selected.items.flatMap SelectItem.overlooked ++
    selected.sources.flatMap TableReference.overlooked ++
    overlookedCondition selected.condition?

/-- The SELECT without its overlooked parts. -/
def Select.stripped (selected : Select) : Select :=
  { selected with
    kind := ""
    items := selected.items.map SelectItem.stripped
    into := ""
    sources := selected.sources.map TableReference.stripped
    lateralViews := ""
    prewhere := ""
    condition? := selected.condition?.map Expr.stripped
    distribution := ""
    windows := ""
    hierarchy := "" }

/-- The clauses around a query that are overlooked whatever the query is for. -/
def Query.overlookedAround (query : Query) : List OverlookedPart :=
  ofText .interpolation query.interpolation ++ ofText .limitBy query.limitBy ++
    ofText .parameters query.parameters ++ ofText .locks query.locks ++
    ofText .outputForm query.form

def Query.overlooked (query : Query) : List OverlookedPart :=
  query.overlookedAround ++ query.order.flatMap OrderItem.overlooked ++
    match query.body with
    | .select selected => selected.overlooked
    | _ => []

/-- The query without its overlooked parts. -/
def Query.stripped (query : Query) : Query :=
  { query with
    body := match query.body with
      | .select selected => .select selected.stripped
      | other => other
    order := query.order.map OrderItem.stripped
    interpolation := ""
    limitBy := ""
    parameters := ""
    locks := ""
    form := "" }

/-- The overlooked parts of a query that lists the rows of an INSERT. -/
def Query.overlookedOfRows (query : Query) : List OverlookedPart :=
  query.overlookedAround ++ ofText .queriesBeforeRows query.commonTables ++
    onlyIf .orderOfRows (!query.order.isEmpty) ++ onlyIf .limitOfRows query.limit?.isSome ++
    onlyIf .offsetOfRows query.offset?.isSome ++ ofText .fetchOfRows query.fetch

def Insert.overlooked (inserted : Insert) : List OverlookedPart :=
  overlookedInName inserted.table ++ onlyIf .overwriting inserted.overwriting ++
    ofText .partition inserted.partition ++
    onlyIf .columnsAfterPartition (!inserted.columnsAfterPartition.isEmpty) ++
    inserted.source?.elim [] Query.overlookedOfRows

/-- The INSERT without its overlooked parts. -/
def Insert.stripped (inserted : Insert) : Insert :=
  { inserted with
    overwriting := false
    table := bareName inserted.table
    partition := ""
    columnsAfterPartition := []
    source? := inserted.source?.map fun source => { body := source.body } }

def UpdateStatement.overlooked (updated : UpdateStatement) : List OverlookedPart :=
  updated.table.overlooked ++ overlookedCondition updated.condition?

/-- The UPDATE without its overlooked parts. -/
def UpdateStatement.stripped (updated : UpdateStatement) : UpdateStatement :=
  { updated with
    table := updated.table.stripped
    condition? := updated.condition?.map Expr.stripped }

def DeleteStatement.overlooked (deleted : DeleteStatement) : List OverlookedPart :=
  deleted.sources.flatMap TableReference.overlooked ++ overlookedCondition deleted.condition?

/-- The DELETE without its overlooked parts. -/
def DeleteStatement.stripped (deleted : DeleteStatement) : DeleteStatement :=
  { deleted with
    sources := deleted.sources.map TableReference.stripped
    condition? := deleted.condition?.map Expr.stripped }

namespace ParsedStatement

/-- The overlooked parts of a statement that reads or changes rows. -/
def overlooked : ParsedStatement → List OverlookedPart
  | insert inserted => inserted.overlooked
  | query selected => selected.overlooked
  | update updated => updated.overlooked
  | delete deleted => deleted.overlooked
  | _ => []

/-- The statement without its overlooked parts. -/
def stripped : ParsedStatement → ParsedStatement
  | insert inserted => insert inserted.stripped
  | query selected => query selected.stripped
  | update updated => update updated.stripped
  | delete deleted => delete deleted.stripped
  | statement => statement

/-- Whether a statement reads or changes rows. -/
def touchesRows : ParsedStatement → Bool
  | insert _ | query _ | update _ | delete _ => true
  | _ => false

end ParsedStatement

end Sql

end OrmCode
