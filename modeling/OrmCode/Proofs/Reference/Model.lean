import Mathlib.Data.List.Nodup
import OrmCode.Code.HandlerTable
import OrmCode.Proofs.Javascript.Token
import OrmCode.Proofs.Reference.Sequelize
import OrmCode.Proofs.Reference.SqlAlchemy
import OrmCode.Proofs.Statement.Validity
import OrmCode.Proofs.Text.Identifier

/-!
# Declared models

The code of a table declares a model with one field for each column.  Code that reads or
changes the table is made of pieces that refer to this model and to its fields.
-/

namespace OrmCode

/-- A field as the code of a model writes it: its name, that of its column if it is given, and
what else is said about it. -/
structure DeclaredField where
  name : String
  explicit? : Option String
  arguments : List String

namespace DeclaredField

def line (field : DeclaredField) : Target → String
  | .sequelize =>
    "  " ++ Text.javascriptKey field.name ++ ": \x7b " ++ ", ".intercalate field.arguments ++
      " \x7d"
  | .sqlAlchemy =>
    "    " ++ field.name ++ " = " ++
      SqlAlchemy.call "Column" (field.explicit?.toList.map Text.quoted ++ field.arguments)

end DeclaredField

namespace Target

/-- The code that declares a model of a table with some fields. -/
def declaration (modelName table : String) (fields : List DeclaredField) : Target → String
  | sequelize =>
    "const " ++ modelName ++ " = sequelize.define(" ++ Text.quoted table ++ ", \x7b\n" ++
      ",\n".intercalate (fields.map (·.line sequelize)) ++ "\n\x7d, \x7b\n  tableName: " ++
      Text.quoted table ++ ",\n  timestamps: false\n\x7d);"
  | sqlAlchemy =>
    "\n".intercalate (["class " ++ modelName ++ "(Base):",
      "    __tablename__ = " ++ Text.quoted table, ""] ++ fields.map (·.line sqlAlchemy))

/-- The type of a column and what else is said about it beside its names. -/
def fieldArguments (column : Column) : Target → List String
  | sequelize =>
    (Sequelize.attributes column (sequelize.types.map column.sqlType).rendered).map
      fun (key, value) => key ++ ": " ++ value
  | sqlAlchemy =>
    SqlAlchemy.columnArguments column column.name (sqlAlchemy.types.map column.sqlType).rendered

/-- The field that stands for a column. -/
def declaredField (target : Target) (column : Column) : DeclaredField where
  name := target.fieldName column.name
  explicit? := if target.fieldName column.name = column.name then none else some column.name
  arguments := target.fieldArguments column

end Target

/-- The type of an accepted column is the one that its target maps it to. -/
theorem Context.rendered_of_columnType {context : Context} {column : Column} {type : String}
    (accepted : context.columnType column = .ok type) :
    (context.target.types.map column.sqlType).rendered = type := by
  rw [columnType] at accepted
  split at accepted
  · exact Except.ok.inj accepted
  · cases accepted

namespace Sequelize

theorem line_declaredField (column : Column) :
    (Target.sequelize.declaredField column).line .sequelize =
      "  " ++ Text.javascriptKey column.name ++ ": " ++
        object (attributes column (Target.sequelize.types.map column.sqlType).rendered) := by
  have something : (attributes column
      (Target.sequelize.types.map column.sqlType).rendered).isEmpty = false := by
    simp [attributes]
  have opening : ": \x7b " = ": " ++ "\x7b " := by decide
  simp only [DeclaredField.line, Target.declaredField, Target.fieldArguments, Target.fieldName,
    id_eq, object, something, Bool.false_eq_true, if_false, opening, String.append_assoc]

theorem line_of_field {settings : Settings} {column : Column} {text : String}
    (made : field ⟨.sequelize, settings⟩ column = .ok text) :
    (Target.sequelize.declaredField column).line .sequelize = text := by
  obtain ⟨type, typed, same⟩ := Outcome.bind_eq_ok.mp made
  obtain rfl := Except.ok.inj same
  obtain rfl := Context.rendered_of_columnType typed
  exact line_declaredField column

theorem declaration_of_definition {settings : Settings} {defined : TableDefinition}
    {text : String} (generated : definition ⟨.sequelize, settings⟩ defined = .ok text) :
    Target.sequelize.declaration (Text.javascriptIdentifier defined.table) defined.table
      (defined.columns.map Target.sequelize.declaredField) = text := by
  obtain ⟨_, -, rest⟩ := Outcome.bind_eq_ok.mp generated
  obtain ⟨fields, made, same⟩ := Outcome.bind_eq_ok.mp rest
  obtain rfl := Except.ok.inj same
  obtain rfl := Outcome.eq_map_of_mapM made fun column _ text => line_of_field
  rw [Target.declaration, List.map_map]
  rfl

end Sequelize

namespace SqlAlchemy

/-- The name of a column stands before all that is said about it, unless it is the attribute. -/
theorem columnArguments_eq (column : Column) (name type : String) :
    columnArguments column name type =
      (if name = column.name then none else some column.name).toList.map Text.quoted ++
        columnArguments column column.name type := by
  rw [columnArguments, columnArguments, if_pos rfl]
  by_cases same : name = column.name
  · rw [if_pos same, if_pos same]
    rfl
  · rw [if_neg same, if_neg same]
    simp only [List.nil_append, List.append_assoc, Option.toList_some, List.map_singleton]

theorem line_declaredField (column : Column) :
    (Target.sqlAlchemy.declaredField column).line .sqlAlchemy =
      "    " ++ Text.pythonIdentifier column.name ++ " = " ++
        call "Column" (columnArguments column (Text.pythonIdentifier column.name)
          (Target.sqlAlchemy.types.map column.sqlType).rendered) := by
  rw [columnArguments_eq]
  rfl

theorem line_of_field {settings : Settings} {column : Column} {text : String}
    (made : field ⟨.sqlAlchemy, settings⟩ column (Text.pythonIdentifier column.name) = .ok text) :
    (Target.sqlAlchemy.declaredField column).line .sqlAlchemy = text := by
  obtain ⟨type, typed, same⟩ := Outcome.bind_eq_ok.mp made
  obtain rfl := Except.ok.inj same
  obtain rfl := Context.rendered_of_columnType typed
  exact line_declaredField column

theorem declaration_of_definition {settings : Settings} {defined : TableDefinition}
    {text : String} (generated : definition ⟨.sqlAlchemy, settings⟩ defined = .ok text) :
    Target.sqlAlchemy.declaration (Text.pythonIdentifier defined.table) defined.table
      (defined.columns.map Target.sqlAlchemy.declaredField) = text := by
  obtain ⟨_, -, rest⟩ := Outcome.bind_eq_ok.mp generated
  obtain ⟨names, named, rest⟩ := Outcome.bind_eq_ok.mp rest
  obtain ⟨fields, made, same⟩ := Outcome.bind_eq_ok.mp rest
  obtain rfl := Except.ok.inj same
  obtain rfl := attributeNames_eq_ok named
  rw [List.map_map, ← List.map_prod_left_eq_zip, Outcome.mapM_eq_ok,
    List.forall₂_map_left_iff] at made
  have lines := made.imp fun column text => line_of_field
  rw [← List.forall₂_map_left_iff, List.forall₂_eq_eq_eq] at lines
  rw [Target.declaration, List.map_map, ← lines]
  rfl

end SqlAlchemy

namespace Statement

/-- The pieces of the code that reads or changes a table. -/
def pieces : Target → Statement → List Piece
  | .sequelize, insert inserted => Sequelize.insertionPieces inserted
  | .sequelize, select selected => Sequelize.selectionPieces selected
  | .sequelize, update updated => Sequelize.modificationPieces updated
  | .sequelize, delete deleted => Sequelize.deletionPieces deleted
  | .sqlAlchemy, insert inserted => SqlAlchemy.insertionPieces inserted
  | .sqlAlchemy, select selected => SqlAlchemy.selectionPieces selected
  | .sqlAlchemy, update updated => SqlAlchemy.modificationPieces updated
  | .sqlAlchemy, delete deleted => SqlAlchemy.deletionPieces deleted
  | _, create _ | _, unsupported _ => []

/-- The columns that a statement names. -/
def mentioned : Statement → List String
  | create defined => defined.columns.map Column.name
  | insert inserted => inserted.columns
  | select selected =>
    selected.columns ++ Filter.comparedColumns selected.filter? ++
      selected.order.map SortKey.column
  | update updated =>
    Filter.comparedColumns updated.filter? ++ updated.assignments.flatMap fun assignment =>
      assignment.column :: assignment.value.columns
  | delete deleted => Filter.comparedColumns deleted.filter?
  | unsupported _ => []

theorem declaration_of_generate {settings : Settings} {defined : TableDefinition}
    {target : Target} {code : String}
    (generated : HandlerTable.complete.generate settings (.create defined) target = .ok code) :
    target.declaration (target.modelName defined.table) defined.table
      (defined.columns.map target.declaredField) = code := by
  cases target with
  | sequelize => exact Sequelize.declaration_of_definition generated
  | sqlAlchemy => exact SqlAlchemy.declaration_of_definition generated

theorem code_pieces {settings : Settings} {statement : Statement} {target : Target}
    {table code : String} (uses : ∀ defined, statement ≠ .create defined)
    (sameTable : statement.table? = some table)
    (generated : HandlerTable.complete.generate settings statement target = .ok code) :
    Piece.code target (target.modelName table) (statement.pieces target) = code := by
  cases statement with
  | create defined => exact absurd rfl (uses defined)
  | unsupported name => cases sameTable
  | insert inserted =>
      obtain rfl := Option.some.inj sameTable
      cases target with
      | sequelize => exact Sequelize.code_insertionPieces generated
      | sqlAlchemy => exact SqlAlchemy.code_insertionPieces generated
  | select selected =>
      obtain rfl := Option.some.inj sameTable
      cases target with
      | sequelize => exact Sequelize.code_selectionPieces generated
      | sqlAlchemy => exact SqlAlchemy.code_selectionPieces generated
  | update updated =>
      obtain rfl := Option.some.inj sameTable
      cases target with
      | sequelize => exact Sequelize.code_modificationPieces generated
      | sqlAlchemy => exact SqlAlchemy.code_modificationPieces generated
  | delete deleted =>
      obtain rfl := Option.some.inj sameTable
      cases target with
      | sequelize => exact Sequelize.code_deletionPieces generated
      | sqlAlchemy => exact SqlAlchemy.code_deletionPieces generated

/-- Code names its model. -/
theorem model_mem_pieces {settings : Settings} {statement : Statement} {target : Target}
    {code : String} (uses : ∀ defined, statement ≠ .create defined)
    (generated : HandlerTable.complete.generate settings statement target = .ok code) :
    Piece.model ∈ statement.pieces target := by
  have called : ∀ opening arguments, Piece.model ∈ Sequelize.methodPieces opening arguments :=
    fun opening arguments => List.mem_cons_of_mem _ List.mem_cons_self
  have queried : Piece.model ∈ SqlAlchemy.queryPieces [[.model]] :=
    List.mem_append_right _ (Piece.mem_enclosed _ _ List.mem_cons_self List.mem_cons_self)
  cases statement with
  | create defined => exact absurd rfl (uses defined)
  | unsupported name => cases target <;> cases generated
  | insert inserted =>
      cases target with
      | sequelize =>
          rw [pieces, Sequelize.insertionPieces, Sequelize.creationPieces.eq_def]
          split
          · exact called _ _
          · exact List.mem_cons_of_mem _ List.mem_cons_self
      | sqlAlchemy =>
          obtain ⟨_, passed, -⟩ := Outcome.bind_eq_ok.mp
            (generated : SqlAlchemy.insertion inserted = _)
          obtain ⟨row, others, rows⟩ := List.exists_cons_of_ne_nil
            (Insertion.rows_ne_nil_of_validate (Outcome.mapError_eq_ok.mp passed))
          have record : Piece.model ∈ SqlAlchemy.recordPieces inserted.columns row :=
            List.mem_append_left _ List.mem_cons_self
          rw [pieces, SqlAlchemy.insertionPieces, rows]
          exact SqlAlchemy.mem_additionPieces List.mem_cons_self record
  | select selected =>
      cases target with
      | sequelize =>
          rw [pieces, Sequelize.selectionPieces]
          split <;> exact called _ _
      | sqlAlchemy =>
          refine List.mem_append_left _ (List.mem_append_left _ ?_)
          cases selected.columns with
          | nil => exact queried
          | cons first others =>
              exact List.mem_append_right _ (Piece.mem_enclosed _ _ List.mem_cons_self
                (List.mem_cons_self : Piece.model ∈ SqlAlchemy.attributePieces first))
  | update updated =>
      cases target with
      | sequelize => exact called _ _
      | sqlAlchemy =>
          exact List.mem_append_left _ (List.mem_append_left _ (List.mem_append_left _ queried))
  | delete deleted =>
      cases target with
      | sequelize => exact called _ _
      | sqlAlchemy =>
          exact List.mem_append_left _ (List.mem_append_left _ (List.mem_append_left _ queried))

/-- The columns that new values are computed from. -/
def operands : Statement → List String
  | update updated => updated.assignments.flatMap fun assignment => assignment.value.columns
  | _ => []

section Columns

variable (target : Target)

theorem columns_pieces_insert (inserted : Insertion) :
    Piece.columns ((insert inserted).pieces target) =
      inserted.rows.flatMap fun row => (inserted.columns.zip row).map Prod.fst := by
  cases target with
  | sequelize => exact Sequelize.columns_insertionPieces inserted
  | sqlAlchemy => exact SqlAlchemy.columns_insertionPieces inserted

theorem columns_pieces_select (selected : Selection) :
    Piece.columns ((select selected).pieces target) = (select selected).mentioned := by
  cases target with
  | sequelize => exact Sequelize.columns_selectionPieces selected
  | sqlAlchemy => exact SqlAlchemy.columns_selectionPieces selected

theorem columns_pieces_delete (deleted : Deletion) :
    Piece.columns ((delete deleted).pieces target) = (delete deleted).mentioned := by
  cases target with
  | sequelize => exact Sequelize.columns_deletionPieces deleted
  | sqlAlchemy => exact SqlAlchemy.columns_deletionPieces deleted

theorem mem_mentioned_update (updated : Update) (column : String) :
    column ∈ (update updated).mentioned ↔
      column ∈ Piece.columns ((update updated).pieces .sequelize) ∨
        column ∈ (update updated).operands := by
  rw [pieces, Sequelize.columns_modificationPieces, mentioned, operands]
  simp only [List.mem_append, List.mem_flatMap, List.mem_cons, List.mem_map]
  constructor
  · rintro (compared | ⟨assignment, member, rfl | operand⟩)
    · exact .inl (.inr compared)
    · exact .inl (.inl ⟨assignment, member, rfl⟩)
    · exact .inr ⟨assignment, member, operand⟩
  · rintro ((⟨assignment, member, rfl⟩ | compared) | ⟨assignment, member, operand⟩)
    · exact .inr ⟨assignment, member, .inl rfl⟩
    · exact .inl compared
    · exact .inr ⟨assignment, member, .inr operand⟩

end Columns

/-- Code refers to no column that its statement does not name. -/
theorem mem_mentioned {statement : Statement} {target : Target} {column : String}
    (referred : column ∈ Piece.columns (statement.pieces target)) :
    column ∈ statement.mentioned := by
  cases statement with
  | create defined => cases target <;> cases referred
  | unsupported name => cases target <;> cases referred
  | insert inserted =>
      rw [columns_pieces_insert] at referred
      obtain ⟨row, -, zipped⟩ := List.mem_flatMap.mp referred
      obtain ⟨pair, paired, rfl⟩ := List.mem_map.mp zipped
      exact (List.of_mem_zip paired).1
  | select selected => rwa [← columns_pieces_select target]
  | update updated =>
      cases target with
      | sequelize => exact (mem_mentioned_update updated column).mpr (.inl referred)
      | sqlAlchemy => rwa [mentioned, ← SqlAlchemy.columns_modificationPieces]
  | delete deleted => rwa [← columns_pieces_delete target]

/-- Code refers to each column that its statement names, except that code for Sequelize writes
an amount that is added to a column as a piece of SQL. -/
theorem mem_columns_pieces {settings : Settings} {statement : Statement} {target : Target}
    {column code : String} (uses : ∀ defined, statement ≠ .create defined)
    (generated : HandlerTable.complete.generate settings statement target = .ok code)
    (named : column ∈ statement.mentioned) :
    column ∈ Piece.columns (statement.pieces target) ∨
      (target = .sequelize ∧ column ∈ statement.operands) := by
  cases statement with
  | create defined => exact absurd rfl (uses defined)
  | unsupported name => cases named
  | insert inserted =>
      have valid : inserted.validate = .ok () := by
        cases target with
        | sequelize =>
            obtain ⟨_, passed, -⟩ := Outcome.bind_eq_ok.mp
              (generated : Sequelize.insertion inserted = _)
            exact Outcome.mapError_eq_ok.mp passed
        | sqlAlchemy =>
            obtain ⟨_, passed, -⟩ := Outcome.bind_eq_ok.mp
              (generated : SqlAlchemy.insertion inserted = _)
            exact Outcome.mapError_eq_ok.mp passed
      obtain ⟨row, others, rows⟩ := List.exists_cons_of_ne_nil
        (Insertion.rows_ne_nil_of_validate valid)
      have member : row ∈ inserted.rows := rows ▸ List.mem_cons_self
      have long := Insertion.length_of_validate valid member
      rw [columns_pieces_insert]
      refine .inl (List.mem_flatMap.mpr ⟨row, member, ?_⟩)
      rwa [List.map_fst_zip (Nat.le_of_eq long.symm)]
  | select selected => exact .inl (columns_pieces_select target selected ▸ named)
  | update updated =>
      cases target with
      | sequelize =>
          exact ((mem_mentioned_update updated column).mp named).imp id fun operand =>
            ⟨rfl, operand⟩
      | sqlAlchemy =>
          rw [pieces, SqlAlchemy.columns_modificationPieces]
          exact .inl named
  | delete deleted => exact .inl (columns_pieces_delete target deleted ▸ named)

end Statement

theorem nodup_fieldNames {settings : Settings} {defined : TableDefinition} {target : Target}
    {code : String}
    (generated : HandlerTable.complete.generate settings (.create defined) target = .ok code) :
    ((defined.columns.map target.declaredField).map DeclaredField.name).Nodup := by
  have names : (defined.columns.map target.declaredField).map DeclaredField.name =
      (defined.columns.map Column.name).map target.fieldName := by
    rw [List.map_map, List.map_map]
    rfl
  rw [names]
  cases target with
  | sequelize =>
      obtain ⟨_, passed, -⟩ := Outcome.bind_eq_ok.mp
        (generated : Sequelize.definition _ defined = _)
      rw [Target.fieldName, List.map_id]
      exact TableDefinition.nodup_of_validate (Outcome.mapError_eq_ok.mp passed)
  | sqlAlchemy =>
      obtain ⟨_, passed, rest⟩ := Outcome.bind_eq_ok.mp
        (generated : SqlAlchemy.definition _ defined = _)
      obtain ⟨attributes, named, -⟩ := Outcome.bind_eq_ok.mp rest
      have distinct := TableDefinition.nodup_of_validate (Outcome.mapError_eq_ok.mp passed)
      obtain ⟨differ, -⟩ | ⟨-, _, _, failed⟩ := SqlAlchemy.attributeNames_cases defined.table
        (defined.columns.map Column.name)
      · exact List.Nodup.map_on (fun first member second memberToo =>
          differ first member second memberToo) distinct
      · rw [named] at failed
        cases failed

end OrmCode
