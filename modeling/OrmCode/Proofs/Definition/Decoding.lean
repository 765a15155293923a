import OrmCode.Code.HandlerTable
import OrmCode.Proofs.Definition.Sequelize
import OrmCode.Proofs.Definition.SqlAlchemy

/-!
# Decoding definitions

A table is read back from the code that defines it, in both targets.
-/

namespace OrmCode

theorem laidOut_of_generate {settings : Settings} {definition : TableDefinition}
    {target : Target} {code : String}
    (plain : ∀ column ∈ definition.columns, ∀ value ∈ column.default?, value.isPlain = true)
    (generated : HandlerTable.complete.generate settings (.create definition) target = .ok code) :
    LaidOut target definition (Text.lines code) := by
  cases target with
  | sequelize => exact Sequelize.laidOut_definition rfl plain generated
  | sqlAlchemy => exact SqlAlchemy.laidOut_definition rfl plain generated

/-- Code that defines a table has one line for each column, among as many others as the
target has.  The lines of the columns define them in order, with their names, defaults
and markers as they are and their types as the target has them, and all lines together
define the table. -/
theorem rendered_of_generate {settings : Settings} {definition : TableDefinition}
    {target : Target} {code : String}
    (plain : ∀ column ∈ definition.columns, ∀ value ∈ column.default?, value.isPlain = true)
    (generated : HandlerTable.complete.generate settings (.create definition) target = .ok code) :
    (Text.lines code).length = definition.columns.length +
        (match target with
        | .sequelize => 5
        | .sqlAlchemy => 3) ∧
      (∀ index column, definition.columns[index]? = some column →
        (Text.lines code)[index +
            (match target with
            | .sequelize => 1
            | .sqlAlchemy => 3)]?.bind target.columnLine? = some (column.rendered target)) ∧
      target.tableOf? (Text.lines code) = some (definition.rendered target) := by
  have laidOut := laidOut_of_generate plain generated
  have length := laidOut.length_eq
  have each := fun index column => @LaidOut.columnLine?_getElem? _ _ _ laidOut index column
  cases target <;> exact ⟨length, each, laidOut.tableOf?_eq⟩

/-- A table whose names and texts are full of signs of the code. -/
def signedTable : TableDefinition where
  table := "class"
  columns := [
    { name := "id"
      sqlType := " BigInt ( 20 ) unsigned"
      nullable := false
      primaryKey := true
      autoIncrement := true },
    { name := "a b"
      sqlType := "varchar(40)"
      nullable := false
      unique := true
      default? := some (.literal (.string "x', y: [\n\x5c")) },
    { name := "n"
      sqlType := "wide, Column("
      default? := some (.literal (.number "-1.5e+3")) },
    { name := "made"
      sqlType := "timestamp"
      default? := some (.expression "f('\x0d\n')") }]

def signedClass : String :=
  "class class_(Base):\n    __tablename__ = 'class'\n\n" ++
    "    id = Column(BigInteger, nullable=False, primary_key=True, autoincrement=True)\n" ++
    "    a_b = Column('a b', String(40), nullable=False, unique=True, " ++
    "default='x\x5c', y: [\x5cn\x5c\x5c')\n" ++
    "    n = Column(String, default=-1.5e+3)\n" ++
    "    made = Column(DateTime, server_default=text('f(\x5c'\x5cr\x5cn\x5c')'))"

def signedModel : String :=
  "const class_ = sequelize.define('class', \x7b\n" ++
    "  id: \x7b type: DataTypes.BIGINT, allowNull: false, primaryKey: true, " ++
    "autoIncrement: true \x7d,\n" ++
    "  'a b': \x7b type: DataTypes.STRING(40), allowNull: false, unique: true, " ++
    "defaultValue: 'x\x5c', y: [\x5cn\x5c\x5c' \x7d,\n" ++
    "  n: \x7b type: DataTypes.STRING, defaultValue: -1.5e+3 \x7d,\n" ++
    "  made: \x7b type: DataTypes.DATE, " ++
    "defaultValue: sequelize.literal('f(\x5c'\x5cr\x5cn\x5c')') \x7d\n" ++
    "\x7d, \x7b\n  tableName: 'class',\n  timestamps: false\n\x7d);"

theorem rendered_signedClass :
    (∀ column ∈ signedTable.columns, ∀ value ∈ column.default?, value.isPlain = true) ∧
      HandlerTable.complete.generate {} (.create signedTable) .sqlAlchemy = .ok signedClass ∧
      Target.sqlAlchemy.tableOf? (Text.lines signedClass) =
        some (signedTable.rendered .sqlAlchemy) ∧
      HandlerTable.complete.generate {} (.create signedTable) .sequelize = .ok signedModel ∧
      Target.sequelize.tableOf? (Text.lines signedModel) =
        some (signedTable.rendered .sequelize) := by
  have plain : ∀ column ∈ signedTable.columns, ∀ value ∈ column.default?,
      value.isPlain = true := by
    decide +kernel
  have generated : HandlerTable.complete.generate {} (.create signedTable) .sqlAlchemy =
      .ok signedClass := by
    decide +kernel
  have generatedToo : HandlerTable.complete.generate {} (.create signedTable) .sequelize =
      .ok signedModel := by
    decide +kernel
  exact ⟨plain, generated, (rendered_of_generate plain generated).2.2, generatedToo,
    (rendered_of_generate plain generatedToo).2.2⟩

end OrmCode
