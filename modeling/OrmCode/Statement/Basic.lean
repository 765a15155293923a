import OrmCode.Statement.Filter

/-!
# Statements

The five kinds of statements that code is made of, reduced to what the code
depends on, and a place for the name of any other kind.
-/

namespace OrmCode

/-- The value that a column takes when none is given. -/
inductive DefaultValue
  | literal (value : Literal)
  | currentTimestamp
  | expression (sql : String)
  deriving DecidableEq

/-- The definition of one column, its type kept as text. -/
structure Column where
  name : String
  sqlType : String
  nullable : Bool := true
  primaryKey : Bool := false
  autoIncrement : Bool := false
  unique : Bool := false
  default? : Option DefaultValue := none
  deriving DecidableEq

/-- The creation of a table, with its columns in order. -/
structure TableDefinition where
  table : String
  columns : List Column
  deriving DecidableEq

/-- The insertion of rows whose values belong to the columns by position. -/
structure Insertion where
  table : String
  columns : List String
  rows : List (List Literal)
  deriving DecidableEq

structure SortKey where
  column : String
  ascending : Bool
  deriving DecidableEq

/-- The selection of rows; no columns mean all of them. -/
structure Selection where
  table : String
  columns : List String := []
  filter? : Option Filter := none
  order : List SortKey := []
  limit? : Option Nat := none
  offset? : Option Nat := none

/-- The sign between a column and the amount it is changed by. -/
inductive Change
  | addition
  | subtraction
  deriving DecidableEq

/-- The new value of a column. -/
inductive AssignedValue
  | literal (value : Literal)
  | changed (column : String) (change : Change) (amount : Literal)
  deriving DecidableEq

/-- A column and its new value. -/
structure Assignment where
  column : String
  value : AssignedValue
  deriving DecidableEq

/-- The update of the rows that pass a filter. -/
structure Update where
  table : String
  assignments : List Assignment
  filter? : Option Filter := none

/-- The deletion of the rows that pass a filter. -/
structure Deletion where
  table : String
  filter? : Option Filter := none

inductive Statement
  | create (definition : TableDefinition)
  | insert (insertion : Insertion)
  | select (selection : Selection)
  | update (change : Update)
  | delete (deletion : Deletion)
  | unsupported (kindName : String)

/-- The kinds of statements that code is made of. -/
inductive StatementKind
  | create
  | insert
  | select
  | update
  | delete
  deriving DecidableEq, Inhabited

namespace StatementKind

def all : List StatementKind :=
  [create, insert, select, update, delete]

def name : StatementKind → String
  | create => "create"
  | insert => "insert"
  | select => "select"
  | update => "update"
  | delete => "delete"

theorem mem_all (kind : StatementKind) : kind ∈ all := by
  cases kind <;> decide

end StatementKind

namespace Statement

/-- The kind of a statement, if it is one of the five. -/
def kind? : Statement → Option StatementKind
  | create _ => some .create
  | insert _ => some .insert
  | select _ => some .select
  | update _ => some .update
  | delete _ => some .delete
  | unsupported _ => none

def kindName : Statement → String
  | unsupported name => name
  | create _ => StatementKind.create.name
  | insert _ => StatementKind.insert.name
  | select _ => StatementKind.select.name
  | update _ => StatementKind.update.name
  | delete _ => StatementKind.delete.name

/-- The table that a statement reads or writes. -/
def table? : Statement → Option String
  | create definition => some definition.table
  | insert insertion => some insertion.table
  | select selection => some selection.table
  | update change => some change.table
  | delete deletion => some deletion.table
  | unsupported _ => none

end Statement

end OrmCode
