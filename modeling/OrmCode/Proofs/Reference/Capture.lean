import OrmCode.Proofs.Reference.Binding

/-!
# Captured names

The code of a table uses names of the library of its target.  It goes wrong if it binds one
of them before: JavaScript binds a constant in its own expression already, and a class of
Python a name in all later lines.
-/

namespace OrmCode

/-- Whether bindings leave their meaning to all names that they use, and bind no name of a
class twice. -/
def Target.Keeps : Target → List Binding → Prop
  | sequelize, bindings => ∀ binding ∈ bindings, binding.name ∉ binding.used
  | sqlAlchemy, bindings => bindings.Pairwise fun earlier later =>
      later.name ≠ earlier.name ∧ earlier.name ∉ later.used

/-- Whether neither the table nor a column has a name that the code of the table uses for
something else. -/
def TableDefinition.KeepsNames (defined : TableDefinition) : Target → Prop
  | .sequelize => defined.table ≠ "sequelize" ∧ defined.table ≠ "DataTypes"
  | .sqlAlchemy =>
    (∀ column ∈ defined.columns, Text.pythonIdentifier column.name ≠ "__tablename__") ∧
      defined.columns.Pairwise fun earlier later => earlier.name ∉ later.usedNames .sqlAlchemy

namespace Sequelize

theorem mem_usedNames {column : Column} {name : String}
    (used : name ∈ column.usedNames .sequelize) : name = "sequelize" ∨ name = "DataTypes" := by
  rcases List.mem_cons.mp used with rfl | default
  · exact .inr rfl
  · obtain ⟨value, -, member⟩ := List.mem_flatMap.mp default
    cases value with
    | literal constant => cases member
    | currentTimestamp => exact .inr (List.mem_singleton.mp member)
    | expression sql => exact .inl (List.mem_singleton.mp member)

theorem mem_used_iff {columns : List Column} (something : columns ≠ []) (name : String) :
    name ∈ "sequelize" :: columns.flatMap (·.usedNames .sequelize) ↔
      name = "sequelize" ∨ name = "DataTypes" := by
  rw [List.mem_cons]
  constructor
  · rintro (rfl | field)
    · exact .inl rfl
    · obtain ⟨column, -, used⟩ := List.mem_flatMap.mp field
      exact mem_usedNames used
  · rintro (rfl | rfl)
    · exact .inl rfl
    · obtain ⟨column, member⟩ := List.exists_mem_of_ne_nil columns something
      exact .inr (List.mem_flatMap.mpr ⟨column, member, List.mem_cons_self⟩)

theorem keeps_iff {defined : TableDefinition} (something : defined.columns ≠ []) :
    Target.sequelize.Keeps (defined.bindings .sequelize) ↔ defined.KeepsNames .sequelize := by
  have named : ∀ word, word = "sequelize" ∨ word = "DataTypes" →
      (Text.javascriptIdentifier defined.table = word ↔ defined.table = word) := by
    rintro word (rfl | rfl)
    · exact Text.identifierAvoiding_eq_iff (by decide) (by decide) (by decide)
    · exact Text.identifierAvoiding_eq_iff (by decide) (by decide) (by decide)
  rw [Target.Keeps, TableDefinition.bindings, List.forall_mem_singleton, mem_used_iff something,
    named _ (.inl rfl), named _ (.inr rfl), not_or]
  rfl

end Sequelize

namespace SqlAlchemy

/-- The names that a field is written with are words without an underscore. -/
theorem plain_of_mem_usedNames {column : Column} {name : String}
    (used : name ∈ column.usedNames .sqlAlchemy) :
    Text.isIdentifier name = true ∧ '_' ∉ name.toList ∧ name ∉ Text.pythonReserved := by
  rw [Column.usedNames, List.mem_cons, List.mem_cons] at used
  rcases used with rfl | type | default
  · decide
  · rw [type]
    exact plain_of_sqlAlchemyTypes column.sqlType
  · obtain ⟨value, -, member⟩ := List.mem_flatMap.mp default
    cases value with
    | literal constant => cases member
    | currentTimestamp =>
        obtain rfl := List.mem_singleton.mp member
        decide
    | expression sql =>
        obtain rfl := List.mem_singleton.mp member
        decide

/-- An attribute is a name that a field is written with exactly if its column is. -/
theorem pythonIdentifier_mem_usedNames (name : String) (column : Column) :
    Text.pythonIdentifier name ∈ column.usedNames .sqlAlchemy ↔
      name ∈ column.usedNames .sqlAlchemy := by
  have same : ∀ word ∈ column.usedNames .sqlAlchemy,
      Text.pythonIdentifier name = word ↔ name = word := by
    intro word used
    obtain ⟨bare, unmarked, free⟩ := plain_of_mem_usedNames used
    exact Text.identifierAvoiding_eq_iff bare unmarked free
  constructor
  · intro used
    rwa [(same _ used).mp rfl]
  · intro used
    rwa [(same _ used).mpr rfl]

theorem keeps_iff {defined : TableDefinition}
    (distinct : (defined.columns.map fun column => Text.pythonIdentifier column.name).Nodup) :
    Target.sqlAlchemy.Keeps (defined.bindings .sqlAlchemy) ↔ defined.KeepsNames .sqlAlchemy := by
  have marked : ∀ column : Column, "__tablename__" ∉ column.usedNames .sqlAlchemy :=
    fun column used => (plain_of_mem_usedNames used).2.1 (by decide)
  have apart : defined.columns.Pairwise fun earlier later =>
      Text.pythonIdentifier later.name ≠ Text.pythonIdentifier earlier.name :=
    (List.pairwise_map.mp distinct).imp Ne.symm
  rw [Target.Keeps, TableDefinition.bindings, List.pairwise_cons, List.forall_mem_map,
    List.pairwise_map, List.pairwise_and_iff, TableDefinition.KeepsNames]
  simp only [marked, not_false_eq_true, and_true, apart, true_and, pythonIdentifier_mem_usedNames]

end SqlAlchemy

/-- The bindings of a table can be read off its code, and leave all names their meaning exactly
if the table and its columns have other names: a table of Sequelize is not named as the library
or its types, and no column of SQLAlchemy as what a later one is written with. -/
theorem keeps_bindings_iff {settings : Settings} {defined : TableDefinition} {target : Target}
    {code : String}
    (plain : ∀ column ∈ defined.columns, ∀ value ∈ column.default?, value.isPlain = true)
    (generated : HandlerTable.complete.generate settings (.create defined) target = .ok code) :
    target.bindings? code = some (defined.bindings target) ∧
      (target.Keeps (defined.bindings target) ↔ defined.KeepsNames target) := by
  refine ⟨bindings?_of_generate plain generated, ?_⟩
  cases target with
  | sequelize =>
      obtain ⟨_, passed, -⟩ := Outcome.bind_eq_ok.mp
        (generated : Sequelize.definition _ defined = _)
      exact Sequelize.keeps_iff
        (TableDefinition.columns_ne_nil_of_validate (Outcome.mapError_eq_ok.mp passed))
  | sqlAlchemy =>
      have distinct := nodup_fieldNames generated
      rw [List.map_map] at distinct
      exact SqlAlchemy.keeps_iff distinct

/-- A table with a column that is named as the function its next column calls. -/
def noteTable : TableDefinition where
  table := "notes"
  columns := [
    { name := "text", sqlType := "TEXT" },
    { name := "token", sqlType := "VARCHAR(36)", default? := some (.expression "uuid()") }]

theorem keeps_bindings_noteTable :
    HandlerTable.complete.generate {} (.create noteTable) .sqlAlchemy =
        .ok ("class notes(Base):\n    __tablename__ = 'notes'\n\n    text = Column(Text)\n" ++
          "    token = Column(String(36), server_default=text('uuid()'))") ∧
      noteTable.bindings .sqlAlchemy =
        [⟨"__tablename__", []⟩, ⟨"text", ["Column", "Text"]⟩,
          ⟨"token", ["Column", "String", "text"]⟩] ∧
      ¬Target.sqlAlchemy.Keeps (noteTable.bindings .sqlAlchemy) := by
  have plain : ∀ column ∈ noteTable.columns, ∀ value ∈ column.default?,
      value.isPlain = true := by
    decide +kernel
  have generated : HandlerTable.complete.generate {} (.create noteTable) .sqlAlchemy =
      .ok ("class notes(Base):\n    __tablename__ = 'notes'\n\n    text = Column(Text)\n" ++
        "    token = Column(String(36), server_default=text('uuid()'))") := by
    decide +kernel
  refine ⟨generated, by decide +kernel, fun kept => ?_⟩
  have names := ((keeps_bindings_iff plain generated).2.mp kept).2
  exact absurd names (by decide +kernel)

end OrmCode
