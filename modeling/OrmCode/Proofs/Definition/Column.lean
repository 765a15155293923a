import OrmCode.Code.Context
import OrmCode.Proofs.Definition.Type
import OrmCode.Proofs.Sequelize.Reading
import OrmCode.Proofs.SqlAlchemy.Reading

/-!
# Reading columns

The definition of a column is a name, a type and some entries.  An entry marks the
column by one word, and the default is read back from what it is made of.
-/

namespace OrmCode

open Javascript (Term isWord)
open Sequelize (entry lookup_entry option? option?_map)

/-- The column as its definition in a target has it. -/
def Column.rendered (target : Target) (column : Column) : Column :=
  { column with sqlType := (target.types.map column.sqlType).rendered }

/-- The table as its definition in a target has it. -/
def TableDefinition.rendered (target : Target) (definition : TableDefinition) : TableDefinition :=
  { definition with columns := definition.columns.map (Column.rendered target) }

/-- The type of a column in a definition is one word or a call on whole numbers. -/
theorem Context.columnType_cases {context : Context} {column : Column} {type : String}
    (passed : context.columnType column = .ok type) :
    ∃ (found : TargetType) (arguments : List String), isWord found.name = true ∧
      (∀ argument ∈ arguments, isWord argument = true) ∧ type = found.render arguments ∧
      column.rendered context.target = { column with sqlType := type } := by
  obtain ⟨found, arguments, word, words, rendered⟩ :=
    context.target.exists_rendered column.sqlType
  rw [columnType] at passed
  split at passed
  · obtain rfl := Except.ok.inj passed
    exact ⟨found, arguments, word, words, rendered, rfl⟩
  · cases passed

/-- Whether a default is no number or a numeral of SQL. -/
def DefaultValue.isPlain : DefaultValue → Bool
  | literal value => value.isPlain
  | currentTimestamp | expression _ => true

def Sequelize.defaultTerm : DefaultValue → Term
  | .literal value => literalTerm value
  | .currentTimestamp => .word "DataTypes.NOW"
  | .expression sql => .list (.call "sequelize.literal") [.text sql]

def Sequelize.default? : Term → Option DefaultValue
  | .word "DataTypes.NOW" => some .currentTimestamp
  | .list (.call "sequelize.literal") [.text sql] => some (.expression sql)
  | term => (literal? term).map .literal

theorem Sequelize.default?_defaultTerm {value : DefaultValue} (plain : value.isPlain = true) :
    default? (defaultTerm value) = some value := by
  cases value with
  | literal given =>
      have here := literal?_literalTerm plain
      rw [defaultTerm, default?]
      · rw [here]
        rfl
      · intro same
        rw [same] at here
        obtain rfl := Option.some.inj here
        revert plain
        decide
      · intro sql same
        rw [same] at here
        cases here
  | currentTimestamp => rfl
  | expression sql => rfl

/-- The entry of a default; a default of the server has a name of its own. -/
def SqlAlchemy.defaultEntry : DefaultValue → String × Term
  | .literal value => ("default=", literalTerm value)
  | .currentTimestamp => ("server_default=", .list (.call "func.now") [])
  | .expression sql => ("server_default=", .list (.call "text") [.text sql])

def SqlAlchemy.serverDefault? : Term → Option DefaultValue
  | .list (.call "func.now") [] => some .currentTimestamp
  | .list (.call "text") [.text sql] => some (.expression sql)
  | _ => none

def SqlAlchemy.default? (entries : List (String × Term)) : Option (Option DefaultValue) :=
  match entries.lookup "default=" with
  | some term => (literal? term).map fun value => some (.literal value)
  | none => option? serverDefault? (entries.lookup "server_default=")

/-- How a target marks a column. -/
structure Markers where
  notNull : String
  primaryKey : String
  autoIncrement : String
  unique : String
  yes : String
  no : String

namespace Markers

def entries (markers : Markers) (column : Column) : List (String × Term) :=
  entry markers.notNull (if column.nullable then none else some (.word markers.no)) ++
    entry markers.primaryKey (if column.primaryKey then some (.word markers.yes) else none) ++
    entry markers.autoIncrement (if column.autoIncrement then some (.word markers.yes) else none) ++
    entry markers.unique (if column.unique then some (.word markers.yes) else none)

/-- Whether an entry marks a column, which it does by one word alone; without an entry there is no
mark. -/
def mark? (word : String) : Option Term → Option Bool
  | none => some false
  | some (.word given) => if given = word then some true else none
  | some _ => none

/-- The column that some entries mark. -/
def column? (markers : Markers) (name type : String) (default? : Option DefaultValue)
    (entries : List (String × Term)) : Option Column := do
  let required ← mark? markers.no (entries.lookup markers.notNull)
  let primaryKey ← mark? markers.yes (entries.lookup markers.primaryKey)
  let autoIncrement ← mark? markers.yes (entries.lookup markers.autoIncrement)
  let unique ← mark? markers.yes (entries.lookup markers.unique)
  return { name, sqlType := type, nullable := !required, primaryKey, autoIncrement, unique
           default? }

theorem mark?_entry (word : String) (marked : Bool) :
    mark? word (if marked then some (.word word) else none) = some marked := by
  cases marked with
  | true => exact if_pos rfl
  | false => rfl

theorem mark?_missing (word : String) (unmarked : Bool) :
    mark? word (if unmarked then none else some (.word word)) = some (!unmarked) := by
  cases unmarked with
  | true => rfl
  | false => exact if_pos rfl

end Markers

namespace Target

def markers : Target → Markers
  | sequelize => ⟨"allowNull", "primaryKey", "autoIncrement", "unique", "true", "false"⟩
  | sqlAlchemy =>
    ⟨"nullable=", "primary_key=", "autoincrement=", "unique=", "True", "False"⟩

/-- The entry that gives the default of a column, if it has one. -/
def defaultEntries (default? : Option DefaultValue) : Target → List (String × Term)
  | sequelize => entry "defaultValue" (default?.map Sequelize.defaultTerm)
  | sqlAlchemy => default?.toList.map SqlAlchemy.defaultEntry

def default? (entries : List (String × Term)) : Target → Option (Option DefaultValue)
  | sequelize => option? Sequelize.default? (entries.lookup "defaultValue")
  | sqlAlchemy => SqlAlchemy.default? entries

def column? (target : Target) (name : String) (type : Term) (entries : List (String × Term)) :
    Option Column := do
  let type ← TargetType.read? type
  let default? ← target.default? entries
  target.markers.column? name type default? entries

def entries (target : Target) (column : Column) : List (String × Term) :=
  target.markers.entries column ++ target.defaultEntries column.default?

theorem default?_entries (target : Target) {column : Column}
    (plain : ∀ value ∈ column.default?, value.isPlain = true) :
    target.default? (target.entries column) = some column.default? := by
  cases target with
  | sequelize =>
      have given : option? Sequelize.default? (column.default?.map Sequelize.defaultTerm) =
          some column.default? :=
        option?_map fun value member => Sequelize.default?_defaultTerm (plain value member)
      simp [default?, entries, Markers.entries, markers, defaultEntries, List.lookup_append,
        lookup_entry, given]
  | sqlAlchemy =>
      simp only [default?, SqlAlchemy.default?, entries, Markers.entries, markers, defaultEntries,
        List.lookup_append, lookup_entry, String.reduceEq, if_false, Option.none_or]
      cases given : column.default? with
      | none => rfl
      | some value =>
          cases value with
          | literal constant =>
              have here := SqlAlchemy.literal?_literalTerm (plain _ given)
              simp [SqlAlchemy.defaultEntry, here]
          | currentTimestamp => rfl
          | expression sql => rfl

/-- The entry of a default is none of the markers. -/
theorem lookup_defaultEntries (target : Target) (default? : Option DefaultValue) {name : String}
    (marker : name ∈ [target.markers.notNull, target.markers.primaryKey,
      target.markers.autoIncrement, target.markers.unique]) :
    (target.defaultEntries default?).lookup name = none := by
  cases target with
  | sequelize =>
      have apart : name ≠ "defaultValue" := by
        rintro rfl
        revert marker
        decide
      rw [defaultEntries, lookup_entry, if_neg apart]
  | sqlAlchemy =>
      have apart : name ≠ "default=" ∧ name ≠ "server_default=" := by
        constructor <;>
        · rintro rfl
          revert marker
          decide
      cases default? with
      | none => rfl
      | some value => cases value <;> simp [defaultEntries, SqlAlchemy.defaultEntry,
          List.lookup_cons, beq_eq_false_iff_ne.mpr apart.1, beq_eq_false_iff_ne.mpr apart.2]

/-- A column is marked by its entries as it is. -/
theorem markers_column?_entries (target : Target) (column : Column) (type : String) :
    target.markers.column? column.name type column.default? (target.entries column) =
      some { column with sqlType := type } := by
  have absent : ∀ {name}, name ∈ [target.markers.notNull, target.markers.primaryKey,
      target.markers.autoIncrement, target.markers.unique] →
      (target.entries column).lookup name = (target.markers.entries column).lookup name := by
    intro name marker
    rw [entries, List.lookup_append, lookup_defaultEntries target _ marker, Option.or_none]
  have required : Markers.mark? target.markers.no
      ((target.markers.entries column).lookup target.markers.notNull) = some (!column.nullable) := by
    rw [← Markers.mark?_missing target.markers.no]
    cases target <;> simp [Markers.entries, markers, List.lookup_append, lookup_entry]
  have primaryKey : Markers.mark? target.markers.yes
      ((target.markers.entries column).lookup target.markers.primaryKey) =
        some column.primaryKey := by
    rw [← Markers.mark?_entry target.markers.yes]
    cases target <;> simp [Markers.entries, markers, List.lookup_append, lookup_entry]
  have autoIncrement : Markers.mark? target.markers.yes
      ((target.markers.entries column).lookup target.markers.autoIncrement) =
        some column.autoIncrement := by
    rw [← Markers.mark?_entry target.markers.yes]
    cases target <;> simp [Markers.entries, markers, List.lookup_append, lookup_entry]
  have unique : Markers.mark? target.markers.yes
      ((target.markers.entries column).lookup target.markers.unique) = some column.unique := by
    rw [← Markers.mark?_entry target.markers.yes]
    cases target <;> simp [Markers.entries, markers, List.lookup_append, lookup_entry]
  rw [Markers.column?, absent (by simp), absent (by simp), absent (by simp), absent (by simp),
    required, primaryKey, autoIncrement, unique]
  simp

theorem column?_entries (target : Target) {column : Column}
    (plain : ∀ value ∈ column.default?, value.isPlain = true) (type : TargetType)
    (arguments : List String) :
    target.column? column.name (type.term arguments) (target.entries column) =
      some { column with sqlType := type.render arguments } := by
  rw [column?, TargetType.read?_term, default?_entries target plain]
  exact markers_column?_entries target column _

end Target

end OrmCode
