import OrmCode.Proofs.Definition.Column

/-!
# Lines of definitions

The code of a table is some lines around one line for each of its columns.  A line is
read on its own, and all of them give the table back.
-/

namespace OrmCode

open Javascript (Term)

def Sequelize.columnOf? : List Term → Option Column
  | [key, object] => do
    let name ← name? key
    match ← object? object with
    | ("type", type) :: entries => Target.sequelize.column? name type entries
    | _ => none
  | _ => none

/-- The column that the terms of a line define.  Its name is the first argument if that
is a text, and otherwise the attribute. -/
def SqlAlchemy.columnOf? : List Term → Option Column
  | [.word name, .word "=", .list (.call "Column") arguments] =>
    match arguments with
    | .text explicit :: type :: entries => do
      Target.sqlAlchemy.column? explicit type (← Sequelize.entries? entries)
    | type :: entries => do
      Target.sqlAlchemy.column? name type (← Sequelize.entries? entries)
    | [] => none
  | _ => none

namespace Target

def terms? (line : String) : Target → Option (List Term)
  | sequelize => Javascript.terms? (line ++ ";")
  | sqlAlchemy => Python.terms? line

def columnLine? (target : Target) (line : String) : Option Column :=
  (target.terms? line).bind fun terms =>
    match target with
    | sequelize => Sequelize.columnOf? terms
    | sqlAlchemy => SqlAlchemy.columnOf? terms

def tableLine? (target : Target) (line : String) : Option String :=
  (target.terms? line).bind fun terms =>
    match target, terms with
    | sequelize, [.word "tableName", .text table] => some table
    | sqlAlchemy, [.word "__tablename__", .word "=", .text table] => some table
    | _, _ => none

/-- The number of lines before those of the columns. -/
def leadingLines : Target → Nat
  | sequelize => 1
  | sqlAlchemy => 3

/-- The number of lines after those of the columns. -/
def trailingLines : Target → Nat
  | sequelize => 4
  | sqlAlchemy => 0

/-- The place of the line with the name of the table among those around the columns. -/
def namingLine : Target → Nat
  | sequelize => 2
  | sqlAlchemy => 1

def tableOf? (target : Target) (lines : List String) : Option TableDefinition := do
  let columns := (lines.drop target.leadingLines).take
    (lines.length - (target.leadingLines + target.trailingLines))
  let others := lines.take target.leadingLines ++
    lines.drop (target.leadingLines + columns.length)
  return ⟨← others[target.namingLine]?.bind target.tableLine?, ← columns.mapM target.columnLine?⟩

end Target

/-- Lines that define a table. -/
inductive LaidOut (target : Target) (definition : TableDefinition) : List String → Prop
  | mk (leading columns trailing : List String)
    (leading_length : leading.length = target.leadingLines)
    (trailing_length : trailing.length = target.trailingLines)
    (named : (leading ++ trailing)[target.namingLine]?.bind target.tableLine? =
      some definition.table)
    (each : List.Forall₂ (fun line column =>
      target.columnLine? line = some (column.rendered target)) columns definition.columns) :
    LaidOut target definition (leading ++ columns ++ trailing)

namespace LaidOut

variable {target : Target} {definition : TableDefinition} {lines : List String}

theorem length_eq (laidOut : LaidOut target definition lines) :
    lines.length = definition.columns.length + (target.leadingLines + target.trailingLines) := by
  obtain ⟨leading, columns, trailing, leading_length, trailing_length, -, each⟩ := laidOut
  have same := each.length_eq
  simp only [List.length_append]
  omega

/-- The line of a column stands at its place behind the leading lines. -/
theorem columnLine?_getElem? (laidOut : LaidOut target definition lines) {index : Nat}
    {column : Column} (found : definition.columns[index]? = some column) :
    lines[index + target.leadingLines]?.bind target.columnLine? =
      some (column.rendered target) := by
  obtain ⟨leading, columns, trailing, leading_length, trailing_length, -, each⟩ := laidOut
  obtain ⟨inside, -⟩ := List.getElem?_eq_some_iff.mp found
  have same := each.length_eq
  have place : (leading ++ columns ++ trailing)[index + target.leadingLines]? =
      columns[index]? := by
    rw [List.append_assoc, List.getElem?_append_right (by omega),
      List.getElem?_append_left (by omega), leading_length, Nat.add_sub_cancel]
  have read : columns.map target.columnLine? =
      definition.columns.map fun column => some (column.rendered target) := by
    rw [← List.forall₂_eq_eq_eq, List.forall₂_map_left_iff, List.forall₂_map_right_iff]
    exact each
  have here := congrArg (·[index]?) read
  simp only [List.getElem?_map, found, Option.map_some] at here
  obtain ⟨line, listed, same⟩ := Option.map_eq_some_iff.mp here
  rw [place, listed, Option.bind_some, same]

theorem tableOf?_eq (laidOut : LaidOut target definition lines) :
    target.tableOf? lines = some (definition.rendered target) := by
  have total := laidOut.length_eq
  obtain ⟨leading, columns, trailing, leading_length, trailing_length, named, each⟩ := laidOut
  have same := each.length_eq
  have middle : ((leading ++ columns ++ trailing).drop target.leadingLines).take
      ((leading ++ columns ++ trailing).length -
        (target.leadingLines + target.trailingLines)) = columns := by
    rw [total, Nat.add_sub_cancel, List.append_assoc, ← leading_length, List.drop_left, ← same,
      List.take_left]
  have others : (leading ++ columns ++ trailing).take target.leadingLines ++
      (leading ++ columns ++ trailing).drop (target.leadingLines + columns.length) =
        leading ++ trailing := by
    rw [← leading_length, ← List.length_append, List.drop_left, List.append_assoc,
      List.take_left]
  have read : columns.mapM target.columnLine? =
      some (definition.columns.map (Column.rendered target)) := by
    rw [Outcome.mapM_eq_some, List.forall₂_map_right_iff]
    exact each
  rw [Target.tableOf?, middle, others, named, read]
  rfl

end LaidOut

end OrmCode
