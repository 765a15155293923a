import OrmCode.Proofs.Code.Refusal
import OrmCode.Proofs.Fixture.Conversion
import OrmCode.Proofs.Grammar.Insertion
import OrmCode.Proofs.SqlAlchemy.Attribute
import OrmCode.Proofs.Statement.Validity

/-!
# Values of translated insertions

The code of a generated insertion gives each column the value at its place, and there is
no code where the columns and the values are not equally many.
-/

namespace OrmCode

namespace PlainValue

def literal : PlainValue → Literal
  | whole digits _ => .number digits
  | text content _ => .string content
  | truth => .boolean true
  | null => .null

/-- A value as it is written in the code for a target. -/
def spelled : Target → PlainValue → String
  | _, whole digits _ => digits
  | _, text content _ => "'" ++ content ++ "'"
  | .sequelize, truth => "true"
  | .sqlAlchemy, truth => "True"
  | .sequelize, null => "null"
  | .sqlAlchemy, null => "None"

theorem sequelize_literal (value : PlainValue) :
    Sequelize.literal value.literal = value.spelled .sequelize := by
  cases value with
  | text content valid => exact Text.quoted_of_isUnescaped valid
  | whole digits valid => rfl
  | truth => rfl
  | null => rfl

theorem sqlAlchemy_literal (value : PlainValue) :
    SqlAlchemy.literal value.literal = value.spelled .sqlAlchemy := by
  cases value with
  | text content valid => exact Text.quoted_of_isUnescaped valid
  | whole digits valid => rfl
  | truth => rfl
  | null => rfl

theorem lowered_constant (value : PlainValue) :
    Lowering.literal (.value value.constant) = .ok value.literal := by
  cases value <;> rfl

end PlainValue

/-- The insertion of one row of values. -/
def insertion (table : String) (columns : List String) (values : List PlainValue) : Insertion where
  table := table
  columns := columns
  rows := [values.map PlainValue.literal]

theorem lowered_inserted (table : String) (columns : List String) (values : List PlainValue) :
    Lowering.statement (.insert (Sql.inserted table columns values)) =
      .ok (.insert (insertion table columns values)) := by
  have row : (values.map fun value => Sql.Expr.value value.constant).mapM Lowering.literal =
      .ok (values.map PlainValue.literal) :=
    Outcome.mapM_map_eq_ok_map fun value _ => value.lowered_constant
  have rows : Lowering.rows (Sql.insertedRow values) = .ok [values.map PlainValue.literal] :=
    Outcome.bind_eq_ok.mpr ⟨_, row, rfl⟩
  have names : (columns.map fun column => (⟨column, none⟩ : Sql.Name)).map Sql.Name.text =
      columns := by
    rw [List.map_map]
    exact List.map_id' columns
  have lowered : Lowering.insertion (Sql.inserted table columns values) =
      (Lowering.rows (Sql.insertedRow values)).map fun rows =>
        ⟨table, (columns.map fun column => (⟨column, none⟩ : Sql.Name)).map Sql.Name.text,
          rows⟩ := rfl
  rw [Lowering.statement, lowered, rows, names]
  rfl

section Rows

variable {columns : List String} {values : List PlainValue} (table : String)

theorem validate_of_length_ne (differ : columns.length ≠ values.length) :
    (Statement.insert (insertion table columns values)).validate =
      .error (.rowLength columns.length values.length) := by
  have found : [values.map PlainValue.literal].find? (fun row => row.length != columns.length) =
      some (values.map PlainValue.literal) :=
    List.find?_cons_of_pos (by simpa using differ.symm)
  rw [Statement.validate, Insertion.validate, insertion]
  simp only [found, List.length_map]

theorem validate_of_length_eq (equal : columns.length = values.length)
    (lettered : ∀ column ∈ columns, Text.isLettered 'c' column = true)
    (distinct : columns.Nodup) : (insertion table columns values).validate = .ok () := by
  have small := Text.map_lower_of_isLettered (by decide) lettered
  have notFound : [values.map PlainValue.literal].find?
      (fun row => row.length != columns.length) = none := by
    simp [equal]
  rw [Insertion.validate, insertion]
  simp only [notFound]
  exact checkDistinct_eq_ok_iff.mpr (by rwa [small])

end Rows

/-- The entries of a row in JavaScript. -/
theorem sequelize_entries {columns : List String} {values : List PlainValue}
    (lettered : ∀ column ∈ columns, Text.isLettered 'c' column = true) :
    ((columns.zip (values.map PlainValue.literal)).map fun (column, value) =>
        (Text.javascriptKey column, Sequelize.literal value)).map
          (fun (key, value) => key ++ ": " ++ value) =
      (columns.zip values).map fun (column, value) =>
        column ++ ": " ++ value.spelled .sequelize := by
  rw [List.zip_map_right, List.map_map, List.map_map]
  refine List.map_congr_left fun pair member => ?_
  have key : Text.javascriptKey pair.1 = pair.1 := Text.javascriptKey_of_isLettered
    (lettered pair.1 (List.of_mem_zip member).1) (by decide)
  simp only [Function.comp_apply, Prod.map_fst, Prod.map_snd, id_eq, key,
    pair.2.sequelize_literal]

/-- The keyword arguments of a row in Python. -/
theorem sqlAlchemy_arguments (columns : List String) (values : List PlainValue) :
    (columns.zip (values.map PlainValue.literal)).map (fun (name, value) =>
        name ++ "=" ++ SqlAlchemy.literal value) =
      (columns.zip values).map fun (column, value) =>
        column ++ "=" ++ value.spelled .sqlAlchemy := by
  rw [List.zip_map_right, List.map_map]
  refine List.map_congr_left fun pair member => ?_
  simp only [Function.comp_apply, Prod.map_fst, Prod.map_snd, id_eq, pair.2.sqlAlchemy_literal]

section Code

variable {table : String} (tableLettered : Text.isLettered 't' table = true)
  {columns : List String} {values : List PlainValue} (equal : columns.length = values.length)
  (lettered : ∀ column ∈ columns, Text.isLettered 'c' column = true)
  (distinct : columns.Nodup)

include tableLettered equal lettered distinct

theorem sequelize_insertion (something : columns ≠ []) :
    Sequelize.insertion (insertion table columns values) =
      .ok ("await " ++ table ++ ".create(\x7b " ++ ", ".intercalate ((columns.zip values).map
        fun (column, value) => column ++ ": " ++ value.spelled .sequelize) ++ " \x7d);") := by
  have valid := validate_of_length_eq table equal lettered distinct
  have model : Text.javascriptIdentifier table = table :=
    Text.javascriptIdentifier_of_isLettered tableLettered (by decide)
  have notEmpty : columns.zip (values.map PlainValue.literal) ≠ [] := by
    rw [← List.length_pos_iff, List.length_zip, List.length_map, ← equal, Nat.min_self]
    exact List.length_pos_iff.mpr something
  have record : Sequelize.record columns (values.map PlainValue.literal) =
      "\x7b " ++ ", ".intercalate ((columns.zip values).map
        fun (column, value) => column ++ ": " ++ value.spelled .sequelize) ++ " \x7d" := by
    rw [Sequelize.record, Sequelize.object, if_neg (by simpa using notEmpty),
      sequelize_entries lettered]
  have code : Sequelize.insertion (insertion table columns values) =
      .ok ("await " ++ Text.javascriptIdentifier table ++ ".create(" ++
        Sequelize.record columns (values.map PlainValue.literal) ++ ");") :=
    Outcome.bind_eq_ok.mpr ⟨(), Outcome.mapError_eq_ok.mpr valid, rfl⟩
  have opening : ".create(\x7b " = ".create(" ++ "\x7b " := by decide
  have ending : " \x7d);" = " \x7d" ++ ");" := by decide
  rw [code, model, record, opening, ending]
  simp only [String.append_assoc]

theorem sqlAlchemy_insertion :
    SqlAlchemy.insertion (insertion table columns values) =
      .ok ("session.add(" ++ table ++ "(" ++ ", ".intercalate ((columns.zip values).map
        fun (column, value) => column ++ "=" ++ value.spelled .sqlAlchemy) ++
          "))\nsession.commit()") := by
  have valid := validate_of_length_eq table equal lettered distinct
  have model : Text.pythonIdentifier table = table :=
    Text.pythonIdentifier_of_isLettered tableLettered (by decide)
  have attributes : SqlAlchemy.attributeNames table columns = .ok columns :=
    SqlAlchemy.attributeNames_of_kept (fun column member =>
      Text.pythonIdentifier_of_isLettered (lettered column member) (by decide)) table
  have code : SqlAlchemy.insertion (insertion table columns values) =
      .ok (SqlAlchemy.committed (SqlAlchemy.call "session.add"
        [SqlAlchemy.record (Text.pythonIdentifier table) columns
          (values.map PlainValue.literal)])) :=
    Outcome.bind_eq_ok.mpr ⟨(), Outcome.mapError_eq_ok.mpr valid,
      Outcome.bind_eq_ok.mpr ⟨_, attributes, rfl⟩⟩
  have opening : "session.add(" = "session.add" ++ "(" := by decide
  have ending : "))\nsession.commit()" = ")" ++ ")" ++ "\nsession.commit()" := by decide
  rw [code, model, SqlAlchemy.record, sqlAlchemy_arguments, SqlAlchemy.committed, SqlAlchemy.call,
    SqlAlchemy.call, String.intercalate_singleton, opening, ending]
  simp only [String.append_assoc]

end Code

/-- The code of a generated insertion binds each column to the value at its place, and there
is none if the columns and the values are not equally many. -/
theorem convert_insertSql {table : String} (tableLettered : Text.isLettered 't' table = true)
    {columns : List String} (listed : columns ≠ [])
    (lettered : ∀ column ∈ columns, Text.isLettered 'c' column = true)
    (distinct : columns.Nodup) {values : List PlainValue} (given : values ≠ [])
    (short : (insertSql table columns (values.map PlainValue.sql)).utf8ByteSize ≤ 65536) :
    (columns.length = values.length →
      convert Target.sequelize.name (insertSql table columns (values.map PlainValue.sql)) =
          .ok ("await " ++ table ++ ".create(\x7b " ++ ", ".intercalate
            ((columns.zip values).map fun (column, value) =>
              column ++ ": " ++ value.spelled .sequelize) ++ " \x7d);") ∧
        convert Target.sqlAlchemy.name (insertSql table columns (values.map PlainValue.sql)) =
          .ok ("session.add(" ++ table ++ "(" ++ ", ".intercalate
            ((columns.zip values).map fun (column, value) =>
              column ++ "=" ++ value.spelled .sqlAlchemy) ++ "))\nsession.commit()")) ∧
    (columns.length ≠ values.length → ∀ target : Target,
      convert target.name (insertSql table columns (values.map PlainValue.sql)) =
        .error (.countMismatch columns.length values.length)) := by
  have visible : Text.allBlank (insertSql table columns (values.map PlainValue.sql)) = false := by
    unfold insertSql
    simp [Text.allBlank, Text.isBlank]
  have read := Sql.parse?_insertSql tableLettered listed lettered given
  have generated := convert_of_parse? visible short read (lowered_inserted table columns values)
  refine ⟨fun equal => ⟨?_, ?_⟩, fun differ target => ?_⟩
  · rw [generated]
    exact sequelize_insertion tableLettered equal lettered distinct listed
  · rw [generated]
    exact sqlAlchemy_insertion tableLettered equal lettered distinct
  · rw [generated, Statement.generate_of_flaw (validate_of_length_ne table differ)]
    rfl

/-- Columns for a value of each kind. -/
def plainColumns : List String :=
  ["c_id", "c_name", "c_active", "c_note"]

/-- A value of each kind. -/
def plainRow : List PlainValue :=
  [.whole "42" (by decide), .text "Ada Lovelace" (by decide), .truth, .null]

theorem convert_plainRow :
    insertSql "t_user" plainColumns (plainRow.map PlainValue.sql) =
        "INSERT INTO t_user (c_id, c_name, c_active, c_note) " ++
          "VALUES (42, 'Ada Lovelace', TRUE, NULL)" ∧
      convert "sequelize" (insertSql "t_user" plainColumns (plainRow.map PlainValue.sql)) =
        .ok ("await t_user.create(\x7b c_id: 42, c_name: 'Ada Lovelace', " ++
          "c_active: true, c_note: null \x7d);") ∧
      convert "sqlalchemy" (insertSql "t_user" plainColumns (plainRow.map PlainValue.sql)) =
        .ok ("session.add(t_user(c_id=42, c_name='Ada Lovelace', c_active=True, c_note=None))" ++
          "\nsession.commit()") ∧
      ∀ target : Target,
        convert target.name (insertSql "t_user" ["c_id"] (plainRow.map PlainValue.sql)) =
          .error (.countMismatch 1 4) := by
  have tableLettered : Text.isLettered 't' "t_user" = true := by decide
  have given : plainRow ≠ [] := List.cons_ne_nil _ _
  have bound := convert_insertSql tableLettered (by decide : plainColumns ≠ []) (by decide)
    (by decide) given (by decide +kernel)
  have refused := convert_insertSql tableLettered (by decide : ["c_id"] ≠ []) (by decide)
    (by decide) given (by decide +kernel)
  obtain ⟨sequelize, sqlAlchemy⟩ := bound.1 rfl
  refine ⟨by decide +kernel, sequelize.trans (congrArg _ ?_), sqlAlchemy.trans (congrArg _ ?_),
    refused.2 (by decide)⟩
  · decide +kernel
  · decide +kernel

end OrmCode
