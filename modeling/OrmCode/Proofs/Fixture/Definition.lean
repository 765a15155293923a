import OrmCode.Fields
import OrmCode.Proofs.Definition.Sequelize
import OrmCode.Proofs.Definition.SqlAlchemy
import OrmCode.Proofs.Fixture.Conversion
import OrmCode.Proofs.Grammar.Definition
import OrmCode.Proofs.SqlAlchemy.Attribute
import OrmCode.Proofs.Text.Affix

/-!
# Fields of translated definitions

The code of a generated definition has a field for each of its columns, in order, with
the type of the column in the target and a mark for each of its options.
-/

namespace OrmCode

/-- Every text but the first has the separator before it. -/
theorem Text.toList_intercalate_cons (separator first : String) (others : List String) :
    (separator.intercalate (first :: others)).toList =
      first.toList ++ others.flatMap fun text => separator.toList ++ text.toList := by
  induction others generalizing first with
  | nil => simp
  | cons second others induction =>
      rw [String.intercalate_cons_cons, String.toList_append, String.toList_append,
        induction, List.flatMap_cons, List.append_assoc, List.append_assoc]

namespace ColumnSpec

/-- The column that a generated definition has. -/
def column (spec : ColumnSpec) : Column where
  name := spec.name
  sqlType := spec.sqlType
  nullable := !spec.notNull
  primaryKey := spec.primaryKey

/-- The field of a model that stands for a column: its type in the target, and what marks
it as never missing and as part of the key exactly if it is so. -/
def field (target : Target) (spec : ColumnSpec) : ModelField where
  name := spec.name
  text := match target with
    | .sequelize =>
      "\x7b type: " ++ (target.types.map spec.sqlType).rendered ++
        (if spec.notNull then ", allowNull: false" else "") ++
        (if spec.primaryKey then ", primaryKey: true" else "") ++ " \x7d"
    | .sqlAlchemy =>
      (target.types.map spec.sqlType).rendered ++
        (if spec.notNull then ", nullable=False" else "") ++
        (if spec.primaryKey then ", primary_key=True" else "")

theorem lowered_definition {spec : ColumnSpec} (usual : spec.sqlType ∈ usualTypes) :
    Lowering.column spec.definition = spec.column := by
  have notSerial : ∀ type ∈ usualTypes, Lowering.isSerial type = false := by decide
  obtain ⟨name, type, primaryKey, notNull⟩ := spec
  rw [Lowering.column, definition, notSerial type usual]
  cases notNull <;> cases primaryKey <;> rfl

end ColumnSpec

theorem lowered_createdTable (table : String) {columns : List ColumnSpec}
    (usual : ∀ column ∈ columns, column.sqlType ∈ ColumnSpec.usualTypes) :
    Lowering.statement (.create (Sql.createdTable table columns)) =
      .ok (.create ⟨table, columns.map ColumnSpec.column⟩) := by
  have each : (columns.map ColumnSpec.definition).map Lowering.column =
      columns.map ColumnSpec.column := by
    rw [List.map_map]
    exact List.map_congr_left fun column member =>
      ColumnSpec.lowered_definition (usual column member)
  have defined : Lowering.definition (Sql.createdTable table columns) =
      .ok ⟨table, (columns.map ColumnSpec.definition).map Lowering.column⟩ := rfl
  rw [Lowering.statement, defined, each]
  rfl

section Fields

variable {columns : List ColumnSpec} (something : columns ≠ [])
  (lettered : ∀ column ∈ columns, Text.isLettered 'c' column.name = true)
  (distinct : (columns.map ColumnSpec.name).Nodup)

include something lettered distinct in
theorem validate_usual (table : String) :
    TableDefinition.validate ⟨table, columns.map ColumnSpec.column⟩ = .ok () := by
  have names : (columns.map ColumnSpec.column).map Column.name = columns.map ColumnSpec.name := by
    rw [List.map_map]
    rfl
  have small := Text.map_lower_of_isLettered (by decide)
    (List.forall_mem_map.mpr lettered : ∀ name ∈ columns.map ColumnSpec.name, _)
  rw [TableDefinition.validate, if_neg (by simpa using something), names]
  exact checkDistinct_eq_ok_iff.mpr (by rwa [small])

end Fields

/-- Under the default settings no type is refused. -/
theorem Context.columnType_usual (target : Target) (column : Column) :
    Context.columnType ⟨target, {}⟩ column = .ok (target.types.map column.sqlType).rendered := by
  rw [columnType]
  exact if_pos (by simp)

namespace Sequelize

theorem attributes_column (spec : ColumnSpec) (type : String) :
    attributes spec.column type =
      ("type", type) :: ((if spec.notNull then [("allowNull", "false")] else []) ++
        (if spec.primaryKey then [("primaryKey", "true")] else [])) := by
  obtain ⟨name, sqlType, primaryKey, notNull⟩ := spec
  cases notNull <;> cases primaryKey <;> rfl

theorem object_attributes_column (spec : ColumnSpec) :
    object (attributes spec.column (Target.sequelize.types.map spec.sqlType).rendered) =
      (spec.field .sequelize).text := by
  rw [attributes_column, object, if_neg (by simp), List.map_cons, ← String.toList_inj]
  simp only [ColumnSpec.field, String.toList_append, Text.toList_intercalate_cons,
    List.map_append, List.flatMap_append, List.append_assoc]
  cases spec.notNull <;> cases spec.primaryKey <;> rfl

theorem field_column {spec : ColumnSpec} (lettered : Text.isLettered 'c' spec.name = true) :
    field ⟨.sequelize, {}⟩ spec.column =
      .ok ("  " ++ (spec.name ++ ": " ++ (spec.field .sequelize).text)) := by
  have key : Text.javascriptKey spec.name = spec.name :=
    Text.javascriptKey_of_isLettered lettered (by decide)
  refine Outcome.bind_eq_ok.mpr ⟨_, Context.columnType_usual .sequelize spec.column, ?_⟩
  change Except.ok ("  " ++ Text.javascriptKey spec.name ++ ": " ++ object (attributes spec.column
    (Target.sequelize.types.map spec.sqlType).rendered)) = _
  rw [object_attributes_column, key]
  simp only [String.append_assoc]

end Sequelize

theorem apart_of_isLettered {initial character : Char} {name : String}
    (lettered : Text.isLettered initial name = true) (small : initial.isLower = true)
    (refused : Text.continuesIdentifier character = false) : character ∉ name.toList := by
  intro member
  have continues := Text.continues_of_isLettered lettered small character member
  rw [continues] at refused
  cases refused

/-- The line of a field is read back with and without a comma behind it. -/
theorem ofDefinitionLine?_line {spec : ColumnSpec}
    (lettered : Text.isLettered 'c' spec.name = true) :
    ModelField.ofDefinitionLine? ("  " ++ (spec.name ++ ": " ++ (spec.field .sequelize).text)) =
        some (spec.field .sequelize) ∧
      ModelField.ofDefinitionLine?
          ("  " ++ (spec.name ++ ": " ++ (spec.field .sequelize).text) ++ ",") =
        some (spec.field .sequelize) := by
  have noColon := apart_of_isLettered lettered (by decide)
    (by decide : Text.continuesIdentifier ':' = false)
  have noQuote := apart_of_isLettered lettered (by decide)
    (by decide : Text.continuesIdentifier '\x27' = false)
  have split := Text.splitOnceAt?_append (by rfl : ": ".toList = [':', ' ']) noColon
    (spec.field .sequelize).text
  have notComma : (spec.name ++ ": " ++ (spec.field .sequelize).text).toList.getLast? ≠
      some ',' := by
    have last : " \x7d".toList.getLast? = some '\x7d' := by decide
    simp only [ColumnSpec.field]
    rw [← String.append_assoc, String.toList_append, List.getLast?_append, last, Option.some_or]
    decide
  have kept := Text.dropAtEnd_eq_self notComma
  have dropped := Text.dropAtEnd_append_unwanted ','
    (spec.name ++ ": " ++ (spec.field .sequelize).text)
  have comma : String.singleton ',' = "," := rfl
  rw [kept, comma] at dropped
  have name := Text.dropAtEnds_of_not_mem noQuote
  constructor
  · rw [ModelField.ofDefinitionLine?, Text.stripStart?_append]
    simp only [Option.bind_eq_bind, Option.bind_some, kept, split, name]
    rfl
  · rw [ModelField.ofDefinitionLine?, String.append_assoc, Text.stripStart?_append]
    simp only [Option.bind_eq_bind, Option.bind_some, dropped, split, name]
    rfl

namespace SqlAlchemy

theorem columnArguments_column (spec : ColumnSpec) (type : String) :
    columnArguments spec.column spec.name type =
      type :: ((if spec.notNull then ["nullable=False"] else []) ++
        (if spec.primaryKey then ["primary_key=True"] else [])) := by
  have named : spec.name = spec.column.name := rfl
  rw [columnArguments, if_pos named]
  obtain ⟨name, sqlType, primaryKey, notNull⟩ := spec
  cases notNull <;> cases primaryKey <;> rfl

theorem call_columnArguments_column (spec : ColumnSpec) :
    call "Column" (columnArguments spec.column spec.name
        (Target.sqlAlchemy.types.map spec.sqlType).rendered) =
      "Column(" ++ (spec.field .sqlAlchemy).text ++ ")" := by
  rw [columnArguments_column, call, ← String.toList_inj]
  simp only [ColumnSpec.field, String.toList_append, Text.toList_intercalate_cons,
    List.flatMap_append, List.append_assoc]
  cases spec.notNull <;> cases spec.primaryKey <;> rfl

theorem field_column (spec : ColumnSpec) :
    field ⟨.sqlAlchemy, {}⟩ spec.column spec.name =
      .ok ("    " ++ (spec.name ++ " = Column(" ++ ((spec.field .sqlAlchemy).text ++ ")"))) := by
  have opening : " = Column(" = " = " ++ "Column(" := by decide
  refine Outcome.bind_eq_ok.mpr ⟨_, Context.columnType_usual .sqlAlchemy spec.column, ?_⟩
  change Except.ok ("    " ++ spec.name ++ " = " ++ call "Column" (columnArguments spec.column
    spec.name (Target.sqlAlchemy.types.map spec.sqlType).rendered)) = _
  rw [call_columnArguments_column, opening]
  simp only [String.append_assoc]

/-- No opening line of a class defines a column. -/
theorem ofClassLine?_classLines {table : String} (lettered : Text.isLettered 't' table = true) :
    ∀ line ∈ classLines table, ModelField.ofClassLine? line = none := by
  have quoted : Text.quoted table = "'" ++ table ++ "'" :=
    Text.quoted_of_isLettered lettered (by decide)
  have opening : Text.stripStart? "    " ("class " ++ Text.pythonIdentifier table ++ "(Base):") =
      none := by
    simp [Text.stripStart?, Text.afterStart?]
  have noParenthesis : '(' ∉ ("__tablename__ = " ++ Text.quoted table).toList := by
    have inside := apart_of_isLettered lettered (by decide)
      (by decide : Text.continuesIdentifier '(' = false)
    rw [quoted]
    simp [inside]
  have nowhere := Text.splitOnceAt?_eq_none (by decide : '(' ∈ " = Column(".toList) noParenthesis
  have written : namingLine table = "    " ++ ("__tablename__ = " ++ Text.quoted table) := by
    have indented : "    __tablename__ = " = "    " ++ "__tablename__ = " := by decide
    unfold namingLine
    rw [indented, String.append_assoc]
  have naming : ModelField.ofClassLine? (namingLine table) = none := by
    rw [ModelField.ofClassLine?, written, Text.stripStart?_append]
    simp only [Option.bind_eq_bind, Option.bind_some, nowhere, Option.bind_none]
  simp only [classLines, List.forall_mem_cons]
  refine ⟨?_, naming, rfl, by simp⟩
  rw [ModelField.ofClassLine?, opening]
  rfl

end SqlAlchemy

/-- The line of a field is read back. -/
theorem ofClassLine?_line {spec : ColumnSpec}
    (lettered : Text.isLettered 'c' spec.name = true) :
    ModelField.ofClassLine?
        ("    " ++ (spec.name ++ " = Column(" ++ ((spec.field .sqlAlchemy).text ++ ")"))) =
      some (spec.field .sqlAlchemy) := by
  have noBlank := apart_of_isLettered lettered (by decide)
    (by decide : Text.continuesIdentifier ' ' = false)
  have split := Text.splitOnceAt?_append
    (by decide : " = Column(".toList = ' ' :: "= Column(".toList) noBlank
    ((spec.field .sqlAlchemy).text ++ ")")
  have ended := Text.stripEnd?_append (spec.field .sqlAlchemy).text ")"
  rw [ModelField.ofClassLine?, Text.stripStart?_append]
  simp only [Option.bind_eq_bind, Option.bind_some, split, ended, Option.getD_some]
  rfl

theorem filterMap_eq_of_forall₂ {Item Value : Type} {read : Item → Option Value}
    {items : List Item} {values : List Value}
    (each : List.Forall₂ (fun item value => read item = some value) items values) :
    items.filterMap read = values := by
  induction each with
  | nil => rfl
  | cons here later induction => rw [List.filterMap_cons_some here, induction]

section Code

variable {table : String} (tableLettered : Text.isLettered 't' table = true)
  {columns : List ColumnSpec} (something : columns ≠ [])
  (lettered : ∀ column ∈ columns, Text.isLettered 'c' column.name = true)
  (distinct : (columns.map ColumnSpec.name).Nodup)

include something lettered distinct in
theorem Sequelize.fields_definition (table : String) :
    ∃ code, definition ⟨.sequelize, {}⟩ ⟨table, columns.map ColumnSpec.column⟩ = .ok code ∧
      definitionFields code = columns.map (ColumnSpec.field .sequelize) := by
  have valid := validate_usual something lettered distinct table
  have each : ∀ column ∈ columns, field ⟨.sequelize, {}⟩ column.column =
      .ok ("  " ++ (column.name ++ ": " ++ (column.field .sequelize).text)) :=
    fun column member => field_column (lettered column member)
  have fields : (columns.map ColumnSpec.column).mapM (field ⟨.sequelize, {}⟩) =
      .ok (columns.map fun column =>
        "  " ++ (column.name ++ ": " ++ (column.field .sequelize).text)) :=
    Outcome.mapM_map_eq_ok_map each
  refine ⟨_, Outcome.bind_eq_ok.mpr ⟨(), Outcome.mapError_eq_ok.mpr valid,
    Outcome.bind_eq_ok.mpr ⟨_, fields, rfl⟩⟩, ?_⟩
  have read : List.Forall₂ (fun line value =>
      (line.toList.head? ≠ some '\x7d' ∧ Text.isLine line = true) ∧
        ModelField.ofDefinitionLine? line = some value)
      (commaEnded (columns.map fun column =>
        "  " ++ (column.name ++ ": " ++ (column.field .sequelize).text)))
      (columns.map (ColumnSpec.field .sequelize)) := by
    refine forall₂_commaEnded (Outcome.forall₂_maps fun column member => ?_)
    obtain ⟨bare, ended⟩ := ofDefinitionLine?_line (lettered column member)
    have within := isLine_field (by simp [ColumnSpec.column]) (each column member)
    refine ⟨⟨⟨by simp, within⟩, bare⟩, ⟨by simp, ?_⟩, ended⟩
    rw [Text.isLine_append, within]
    decide
  obtain ⟨shape, found⟩ := (List.forall₂_and_left _ _).mp read
  rw [code_eq table _ (commaEnded_ne_nil (by simpa using something)), definitionFields,
    Text.lines_intercalate (by decide)]
  · rw [List.cons_append, List.drop_succ_cons, List.drop_zero, List.append_assoc,
      List.takeWhile_append_of_pos fun line member => by simpa using (shape line member).1,
      List.cons_append, List.takeWhile_cons_of_neg (by decide), List.append_nil]
    exact filterMap_eq_of_forall₂ found
  · simp only [List.forall_mem_append, List.forall_mem_cons]
    exact ⟨⟨isLine_openingLine _, fun line member => (shape line member).2, by decide,
      isLine_namingLine _, by decide, by simp⟩, by decide, by simp⟩

theorem SqlAlchemy.mapM_field (columns : List ColumnSpec) :
    ((columns.map ColumnSpec.column).zip (columns.map ColumnSpec.name)).mapM
        (fun (column, name) => field ⟨.sqlAlchemy, {}⟩ column name) =
      .ok (columns.map fun column => "    " ++ (column.name ++ " = Column(" ++
        ((column.field .sqlAlchemy).text ++ ")"))) := by
  rw [List.zip_map']
  exact Outcome.mapM_map_eq_ok_map fun column _ => field_column column

include tableLettered something lettered distinct in
theorem SqlAlchemy.fields_definition :
    ∃ code, definition ⟨.sqlAlchemy, {}⟩ ⟨table, columns.map ColumnSpec.column⟩ = .ok code ∧
      classFields code = columns.map (ColumnSpec.field .sqlAlchemy) := by
  have valid := validate_usual something lettered distinct table
  have names : (columns.map ColumnSpec.column).map Column.name = columns.map ColumnSpec.name := by
    rw [List.map_map]
    rfl
  have kept : ∀ name ∈ columns.map ColumnSpec.name, Text.pythonIdentifier name = name := by
    intro name member
    obtain ⟨column, listed, rfl⟩ := List.mem_map.mp member
    exact Text.pythonIdentifier_of_isLettered (lettered column listed) (by decide)
  have attributes : attributeNames table ((columns.map ColumnSpec.column).map Column.name) =
      .ok (columns.map ColumnSpec.name) := by
    rw [names]
    exact attributeNames_of_kept kept table
  refine ⟨_, Outcome.bind_eq_ok.mpr ⟨(), Outcome.mapError_eq_ok.mpr valid,
    Outcome.bind_eq_ok.mpr ⟨_, attributes,
      Outcome.bind_eq_ok.mpr ⟨_, mapM_field columns, rfl⟩⟩⟩, ?_⟩
  have read : List.Forall₂ (fun line value =>
      (line ≠ "" ∧ Text.isLine line = true) ∧ ModelField.ofClassLine? line = some value)
      (columns.map fun column => "    " ++ (column.name ++ " = Column(" ++
        ((column.field .sqlAlchemy).text ++ ")")))
      (columns.map (ColumnSpec.field .sqlAlchemy)) := by
    refine Outcome.forall₂_maps fun column member => ?_
    have word : Javascript.isWord column.name = true := by
      rw [← kept column.name (List.mem_map_of_mem member)]
      exact isWord_pythonIdentifier column.name
    have within := isLine_field word (by simp [ColumnSpec.column]) (field_column column)
    exact ⟨⟨by simp, within⟩, ofClassLine?_line (lettered column member)⟩
  obtain ⟨shape, found⟩ := (List.forall₂_and_left _ _).mp read
  have lines := lines_class table (by simpa using something) shape
  rw [classFields]
  refine (congrArg _ lines).trans ?_
  rw [List.filterMap_append, List.filterMap_eq_nil_iff.mpr (ofClassLine?_classLines tableLettered),
    List.nil_append]
  exact filterMap_eq_of_forall₂ found

end Code

/-- A generated definition is translated for both targets, and the fields of the code are its
columns in order. -/
theorem modelFields_createTableSql {table : String}
    (tableLettered : Text.isLettered 't' table = true) {columns : List ColumnSpec}
    (something : columns ≠ [])
    (lettered : ∀ column ∈ columns, Text.isLettered 'c' column.name = true)
    (usual : ∀ column ∈ columns, column.sqlType ∈ ColumnSpec.usualTypes)
    (distinct : (columns.map ColumnSpec.name).Nodup)
    (short : (createTableSql table columns).utf8ByteSize ≤ 65536) (target : Target) :
    ∃ code, convert target.name (createTableSql table columns) = .ok code ∧
      modelFields target code = columns.map (ColumnSpec.field target) := by
  have visible : Text.allBlank (createTableSql table columns) = false := by
    unfold createTableSql
    simp [Text.allBlank, Text.isBlank]
  have read := Sql.parse?_createTableSql tableLettered something fun column member =>
    ⟨lettered column member, usual column member⟩
  rw [convert_of_parse? visible short read (lowered_createdTable table usual)]
  cases target with
  | sequelize => exact Sequelize.fields_definition something lettered distinct table
  | sqlAlchemy => exact SqlAlchemy.fields_definition tableLettered something lettered distinct

/-- Columns with each kind of mark. -/
def markedColumns : List ColumnSpec :=
  [⟨"c_id", "BIGINT", true, true⟩, ⟨"c_name", "VARCHAR(32)", false, true⟩,
    ⟨"c_born", "DATE", false, false⟩]

theorem modelFields_markedColumns :
    (markedColumns.map (ColumnSpec.field .sqlAlchemy) =
      [⟨"c_id", "BigInteger, nullable=False, primary_key=True"⟩,
        ⟨"c_name", "String(32), nullable=False"⟩, ⟨"c_born", "Date"⟩]) ∧
    (markedColumns.map (ColumnSpec.field .sequelize) =
      [⟨"c_id", "\x7b type: DataTypes.BIGINT, allowNull: false, primaryKey: true \x7d"⟩,
        ⟨"c_name", "\x7b type: DataTypes.STRING(32), allowNull: false \x7d"⟩,
        ⟨"c_born", "\x7b type: DataTypes.DATEONLY \x7d"⟩]) ∧
    ∀ target, ∃ code, convert target.name (createTableSql "t_person" markedColumns) = .ok code ∧
      modelFields target code = markedColumns.map (ColumnSpec.field target) :=
  ⟨by decide +kernel, by decide +kernel,
    modelFields_createTableSql (by decide) (by decide) (by decide) (by decide) (by decide)
      (by decide +kernel)⟩

end OrmCode
