import OrmCode.Proofs.Reference.Used

/-!
# Bindings of definitions

The code of a table binds names to expressions, which use names themselves.  Both are read
off the code: JavaScript declares one constant, and the body of a class of Python binds a
name in each of its lines.
-/

namespace OrmCode

open Javascript (Term Bracket)

/-- A name that code binds, and the names that its expression uses. -/
structure Binding where
  name : String
  used : List String
  deriving DecidableEq

namespace Target

/-- The binding that a line of a class makes. -/
def lineBinding? (line : String) : Option Binding :=
  match Python.terms? line with
  | some [.word name, .word "=", value] => some ⟨name, value.names Text.pythonReserved⟩
  | _ => none

/-- The bindings that code makes, in order: that of a constant, or those of the lines of a
class behind its first. -/
def bindings? (code : String) : Target → Option (List Binding)
  | sequelize =>
    match Javascript.terms? code with
    | some [.word "const", .word name, value] =>
      some [⟨name, value.names Text.javascriptReserved⟩]
    | _ => none
  | sqlAlchemy => ((Text.lines code).tail.filter (· ≠ "")).mapM lineBinding?

end Target

/-- The bindings of the code of a table. -/
def TableDefinition.bindings (defined : TableDefinition) : Target → List Binding
  | .sequelize =>
    [⟨Text.javascriptIdentifier defined.table,
      "sequelize" :: defined.columns.flatMap (·.usedNames .sequelize)⟩]
  | .sqlAlchemy =>
    ⟨"__tablename__", []⟩ :: defined.columns.map fun column =>
      ⟨Text.pythonIdentifier column.name, column.usedNames .sqlAlchemy⟩

section Column

variable {column : Column} (plain : ∀ value ∈ column.default?, value.isPlain = true)

theorem digits_of_type (written : String) :
    ∀ argument ∈ (ColumnType.ofText written).arguments, ColumnType.isDigits argument = true :=
  fun _ => ColumnType.isDigits_of_mem_arguments

include plain

theorem names_javascriptField :
    (Sequelize.objectTerm (("type", (sequelizeTypes.counterpart column.sqlType).term
      (ColumnType.ofText column.sqlType).arguments) :: Target.sequelize.entries column)).names
        Text.javascriptReserved = column.usedNames .sequelize := by
  have paths : ∀ type ∈ sequelizeTypes.fallback :: sequelizeTypes.entries.map Prod.snd,
      type.name.toList.takeWhile (· != '.') = "DataTypes".toList.takeWhile (· != '.') := by
    decide +kernel
  have type := names_typeTerm Text.javascriptReserved (sequelizeTypes.counterpart column.sqlType)
    (digits_of_type column.sqlType)
  rw [Javascript.pathNames_congr _ (paths _ (sequelizeTypes.counterpart_mem column.sqlType)),
    Javascript.pathNames_of_isIdentifier (by decide) (by decide)] at type
  rw [Term.names_objectTerm, List.flatMap_cons, type, Column.usedNames,
    ← entryNames_entries .sequelize plain]
  rfl

theorem names_pythonField (name : String) :
    (Term.list (.call "Column") (SqlAlchemy.columnTerms column name
      ((sqlAlchemyTypes.counterpart column.sqlType).term
        (ColumnType.ofText column.sqlType).arguments)).flatten).names Text.pythonReserved =
      column.usedNames .sqlAlchemy := by
  obtain ⟨bare, -, free⟩ := plain_of_sqlAlchemyTypes column.sqlType
  have type := names_typeTerm Text.pythonReserved (sqlAlchemyTypes.counterpart column.sqlType)
    (digits_of_type column.sqlType)
  rw [Javascript.pathNames_of_isIdentifier bare free] at type
  have explicit : (if name = column.name then [] else [[Term.text column.name]]).flatten.flatMap
      (Term.names Text.pythonReserved) = [] := by
    split <;> rfl
  have function : Javascript.pathNames Text.pythonReserved "Column" = ["Column"] :=
    Javascript.pathNames_of_isIdentifier (by decide) (by decide)
  rw [Term.names_call, SqlAlchemy.columnTerms, List.flatten_append,
    List.flatMap_append, explicit, List.flatten_cons, List.flatMap_append, List.flatMap_singleton,
    type, function, names_argumentTerms column, entryNames_entries .sqlAlchemy plain]
  rfl

end Column

theorem words_of_type (written : String) :
    ∀ argument ∈ (ColumnType.ofText written).arguments, Javascript.isWord argument = true :=
  fun argument member => ColumnType.isWord_of_isDigits (digits_of_type written argument member)

namespace SqlAlchemy

theorem lineBinding?_line {column : Column}
    (plain : ∀ value ∈ column.default?, value.isPlain = true) :
    Target.lineBinding? ((Target.sqlAlchemy.declaredField column).line .sqlAlchemy) =
      some ⟨Text.pythonIdentifier column.name, column.usedNames .sqlAlchemy⟩ := by
  have typed := TargetType.spells_render_python
    (Target.sqlAlchemy.isWord_counterpart column.sqlType) (words_of_type column.sqlType)
  rw [line_declaredField, Target.rendered_types, Target.lineBinding?,
    terms?_line (isWord_pythonIdentifier column.name) plain typed]
  exact congrArg (fun used => some (Binding.mk _ used)) (names_pythonField plain _)

theorem lineBinding?_namingLine (table : String) :
    Target.lineBinding? (namingLine table) = some ⟨"__tablename__", []⟩ := by
  rw [Target.lineBinding?, Python.terms?_of_closed (closed_namingLine table)]
  rfl

section Class

variable {defined : TableDefinition} (something : defined.columns ≠ [])
  (plain : ∀ column ∈ defined.columns, ∀ value ∈ column.default?, value.isPlain = true)

/-- No line that binds a name is empty. -/
theorem ne_empty_of_lineBinding? {line : String} {binding : Binding}
    (bound : Target.lineBinding? line = some binding) : line ≠ "" := by
  rintro rfl
  cases bound

include something plain

theorem lines_declaration :
    Text.lines (Target.sqlAlchemy.declaration (Text.pythonIdentifier defined.table) defined.table
        (defined.columns.map Target.sqlAlchemy.declaredField)) =
      classLines defined.table ++ defined.columns.map fun column =>
        (Target.sqlAlchemy.declaredField column).line .sqlAlchemy := by
  simp only [Target.declaration, List.map_map, Function.comp_def]
  refine lines_class defined.table (by simpa using something) fun line listed => ?_
  obtain ⟨column, member, rfl⟩ := List.mem_map.mp listed
  refine ⟨ne_empty_of_lineBinding? (lineBinding?_line (plain column member)), ?_⟩
  rw [line_declaredField, Target.rendered_types]
  exact isLine_line (isWord_pythonIdentifier column.name) (plain column member)
    (TargetType.isLine_render (Target.sqlAlchemy.isWord_counterpart column.sqlType)
      (words_of_type column.sqlType))

theorem bindings?_declaration :
    Target.sqlAlchemy.bindings? (Target.sqlAlchemy.declaration
        (Text.pythonIdentifier defined.table) defined.table
        (defined.columns.map Target.sqlAlchemy.declaredField)) =
      some (defined.bindings .sqlAlchemy) := by
  have naming := lineBinding?_namingLine defined.table
  have each : List.Forall₂ (fun line binding => Target.lineBinding? line = some binding)
      (namingLine defined.table :: defined.columns.map fun column =>
        (Target.sqlAlchemy.declaredField column).line .sqlAlchemy)
      (defined.bindings .sqlAlchemy) :=
    .cons naming (Outcome.forall₂_maps fun column member =>
      lineBinding?_line (plain column member))
  have kept : (classLines defined.table ++ defined.columns.map fun column =>
        (Target.sqlAlchemy.declaredField column).line .sqlAlchemy).tail.filter (· ≠ "") =
      namingLine defined.table :: defined.columns.map fun column =>
        (Target.sqlAlchemy.declaredField column).line .sqlAlchemy := by
    change (namingLine defined.table :: "" :: _).filter (· ≠ "") = _
    rw [List.filter_cons_of_pos (by simpa using ne_empty_of_lineBinding? naming),
      List.filter_cons_of_neg (by simp), List.filter_eq_self.mpr]
    · rfl
    · intro line listed
      obtain ⟨column, member, rfl⟩ := List.mem_map.mp listed
      simpa using ne_empty_of_lineBinding? (lineBinding?_line (plain column member))
  rw [Target.bindings?, lines_declaration something plain, kept]
  exact Outcome.mapM_eq_some.mpr each

end Class

end SqlAlchemy

namespace Sequelize

open Javascript

theorem opens_objectLines : Opens "\x7b\n" .object :=
  fun _ => rfl

theorem closes_objectLines : Closes "\n\x7d" .object :=
  ⟨'\n', ['\x7d'], rfl, by decide, fun _ => rfl⟩

theorem separates_lineBreak : Separates ",\n" :=
  ⟨',', ['\n'], rfl, by decide, fun _ => rfl⟩

theorem separates_assignment : Separates " = " :=
  ⟨' ', ['=', ' '], rfl, by decide, fun _ => rfl⟩

/-- What the line of a column says beside its name. -/
def fieldTerm (column : Column) : Term :=
  objectTerm (("type", (sequelizeTypes.counterpart column.sqlType).term
    (ColumnType.ofText column.sqlType).arguments) :: Target.sequelize.entries column)

theorem spells_line {column : Column} (plain : ∀ value ∈ column.default?, value.isPlain = true) :
    Spells ((Target.sequelize.declaredField column).line .sequelize)
      [keyTerm column.name, fieldTerm column] := by
  have typed := TargetType.spells_render
    (Target.sequelize.isWord_counterpart column.sqlType) (words_of_type column.sqlType)
  have spelled := spells_indented
    ((spells_key column.name).append separates_colon (spells_attributes plain typed))
  rw [line_declaredField, Target.rendered_types]
  simp only [String.append_assoc] at spelled ⊢
  exact spelled

theorem terms?_declaration {defined : TableDefinition}
    (plain : ∀ column ∈ defined.columns, ∀ value ∈ column.default?, value.isPlain = true) :
    terms? (Target.sequelize.declaration (Text.javascriptIdentifier defined.table) defined.table
        (defined.columns.map Target.sequelize.declaredField)) =
      some [.word "const", .word (Text.javascriptIdentifier defined.table),
        .list (.call "sequelize.define") [.text defined.table,
          .list .object (defined.columns.flatMap fun column =>
            [keyTerm column.name, fieldTerm column]),
          .list .object [.word "tableName", .text defined.table, .word "timestamps",
            .word "false"]]] := by
  have lines : List.Forall₂ Spells
      (defined.columns.map fun column => (Target.sequelize.declaredField column).line .sequelize)
      (defined.columns.map fun column => [keyTerm column.name, fieldTerm column]) :=
    Outcome.forall₂_maps fun column member => spells_line (plain column member)
  have fields := Spells.enclosed opens_objectLines closes_objectLines
    (Spells.intercalate separates_lineBreak lines)
  have table : Spells "tableName" [.word "tableName"] := Spells.word (by decide)
  have timestamps : Spells "timestamps" [.word "timestamps"] := Spells.word (by decide)
  have false : Spells "false" [.word "false"] := Spells.word (by decide)
  have options := Spells.enclosed opens_objectLines closes_objectLines
    ((spells_indented (table.append separates_colon (Spells.quoted defined.table))).append
      separates_lineBreak (spells_indented (timestamps.append separates_colon false)))
  have called := spells_called (by decide : isWord "sequelize.define" = true)
    (((Spells.quoted defined.table).append separates_comma fields).append separates_comma options)
  have const : Spells "const" [.word "const"] := Spells.word (by decide)
  have model : Spells (Text.javascriptIdentifier defined.table)
      [.word (Text.javascriptIdentifier defined.table)] :=
    Spells.word (isWord_identifierAvoiding _ _)
  have terms := terms?_of_spells separates_semicolon
    ((const.append separates_blank model).append separates_assignment called)
  rw [List.flatMap_def]
  refine Eq.trans (congrArg terms? ?_) terms
  have defining : " = sequelize.define(" = " = " ++ ("sequelize.define" ++ "(") := by decide
  have opening : ", \x7b\n" = ", " ++ "\x7b\n" := by decide
  have middle : "\n\x7d, \x7b\n  tableName: " =
      "\n\x7d" ++ (", " ++ ("\x7b\n" ++ ("  " ++ ("tableName" ++ ": ")))) := by decide
  have closing : ",\n  timestamps: false\n\x7d);" =
      ",\n" ++ ("  " ++ ("timestamps" ++ (": " ++ ("false" ++ ("\n\x7d" ++ (")" ++ ";")))))) := by
    decide
  have beginning : "const " = "const" ++ " " := by decide
  rw [Target.declaration, List.map_map, defining, opening, middle, closing, beginning]
  simp only [String.append_assoc]
  rfl

theorem bindings?_declaration {defined : TableDefinition}
    (plain : ∀ column ∈ defined.columns, ∀ value ∈ column.default?, value.isPlain = true) :
    Target.sequelize.bindings? (Target.sequelize.declaration
        (Text.javascriptIdentifier defined.table) defined.table
        (defined.columns.map Target.sequelize.declaredField)) =
      some (defined.bindings .sequelize) := by
  have fields : (Term.list .object (defined.columns.flatMap fun column =>
      [keyTerm column.name, fieldTerm column])).names Text.javascriptReserved =
        defined.columns.flatMap (·.usedNames .sequelize) := by
    rw [Term.names, Term.namesOfValues_flatMap]
    exact List.flatMap_congr fun column member => names_javascriptField (plain column member)
  have options : (Term.list .object [.word "tableName", .text defined.table, .word "timestamps",
      .word "false"]).names Text.javascriptReserved = [] := rfl
  have path : "sequelize.define".toList.takeWhile (· != '.') =
      "sequelize".toList.takeWhile (· != '.') := by
    decide
  have function : pathNames Text.javascriptReserved "sequelize.define" = ["sequelize"] := by
    rw [pathNames_congr _ path, pathNames_of_isIdentifier (by decide) (by decide)]
  rw [Target.bindings?, terms?_declaration plain]
  simp only [Term.names_call, List.flatMap_cons, List.flatMap_nil, fields, options, function,
    List.append_nil]
  rfl

end Sequelize

/-- The bindings of the code of a table are read off the code. -/
theorem bindings?_of_generate {settings : Settings} {defined : TableDefinition}
    {target : Target} {code : String}
    (plain : ∀ column ∈ defined.columns, ∀ value ∈ column.default?, value.isPlain = true)
    (generated : HandlerTable.complete.generate settings (.create defined) target = .ok code) :
    target.bindings? code = some (defined.bindings target) := by
  rw [← Statement.declaration_of_generate generated]
  cases target with
  | sequelize => exact Sequelize.bindings?_declaration plain
  | sqlAlchemy =>
      obtain ⟨_, passed, -⟩ := Outcome.bind_eq_ok.mp
        (generated : SqlAlchemy.definition _ defined = _)
      exact SqlAlchemy.bindings?_declaration
        (TableDefinition.columns_ne_nil_of_validate (Outcome.mapError_eq_ok.mp passed)) plain

end OrmCode
