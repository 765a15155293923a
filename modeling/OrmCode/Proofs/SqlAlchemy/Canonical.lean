import OrmCode.Code.SqlAlchemy
import OrmCode.Proofs.Statement.Filter

/-!
# What code for SQLAlchemy keeps of a statement

Tables and columns are known by their identifiers, and a group of one operand is
that operand.  Code keeps everything else.
-/

namespace OrmCode

namespace Filter

/-- The filter with other names of its columns. -/
def renamed (rename : String → String) : Filter → Filter
  | comparison leaf => comparison { leaf with column := rename leaf.column }
  | group connective operands => group connective (operands.map (renamed rename))
  | negation operand => negation (operand.renamed rename)

theorem leaves_renamed (rename : String → String) (filter : Filter) :
    (filter.renamed rename).leaves =
      filter.leaves.map fun leaf => { leaf with column := rename leaf.column } := by
  induction filter with
  | comparison leaf => simp only [renamed, leaves, List.map_singleton]
  | group connective operands induction =>
      simp only [renamed, leaves_group, List.flatMap_map, List.map_flatMap]
      exact List.flatMap_congr induction
  | negation operand induction => simp only [renamed, leaves, induction]

end Filter

namespace SqlAlchemy

/-- The filter over attributes without groups of one operand. -/
def canonicalFilter (filter : Filter) : Filter :=
  (filter.renamed Text.pythonIdentifier).collapsed

def canonicalValue : AssignedValue → AssignedValue
  | .literal value => .literal value
  | .changed column change amount => .changed (Text.pythonIdentifier column) change amount

def canonicalAssignment (assignment : Assignment) : Assignment :=
  ⟨Text.pythonIdentifier assignment.column, canonicalValue assignment.value⟩

def canonicalKey (key : SortKey) : SortKey :=
  { key with column := Text.pythonIdentifier key.column }

def canonicalInsertion (inserted : Insertion) : Insertion where
  table := Text.pythonIdentifier inserted.table
  columns := inserted.columns.map Text.pythonIdentifier
  rows := inserted.rows

def canonicalSelection (selected : Selection) : Selection where
  table := Text.pythonIdentifier selected.table
  columns := selected.columns.map Text.pythonIdentifier
  filter? := selected.filter?.map canonicalFilter
  order := selected.order.map canonicalKey
  limit? := selected.limit?
  offset? := selected.offset?

def canonicalUpdate (updated : Update) : Update where
  table := Text.pythonIdentifier updated.table
  assignments := updated.assignments.map canonicalAssignment
  filter? := updated.filter?.map canonicalFilter

def canonicalDeletion (deleted : Deletion) : Deletion where
  table := Text.pythonIdentifier deleted.table
  filter? := deleted.filter?.map canonicalFilter

/-- The statement over the class of its table and its attributes. -/
def canonical : Statement → Statement
  | .insert inserted => .insert (canonicalInsertion inserted)
  | .select selected => .select (canonicalSelection selected)
  | .update updated => .update (canonicalUpdate updated)
  | .delete deleted => .delete (canonicalDeletion deleted)
  | .create definition => .create definition
  | .unsupported name => .unsupported name

theorem isSome_filter?_canonical (statement : Statement) :
    (canonical statement).filter?.isSome = statement.filter?.isSome := by
  cases statement with
  | select selected => exact Option.isSome_map
  | update updated => exact Option.isSome_map
  | delete deleted => exact Option.isSome_map
  | _ => rfl

end SqlAlchemy

end OrmCode
