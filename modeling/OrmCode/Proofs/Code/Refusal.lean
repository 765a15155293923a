import OrmCode.Code.HandlerTable
import OrmCode.Proofs.Code.Steady
import OrmCode.Proofs.SqlAlchemy.Attribute

/-!
# What is refused

Code of a valid statement is refused for a type or an operator that strict settings
do not let pass, and for SQLAlchemy also for an attribute of two columns.
-/

namespace OrmCode

/-- Whether the type of some column has no counterpart in the target. -/
def TableDefinition.HasUnknownType (target : Target) (definition : TableDefinition) : Prop :=
  ∃ column ∈ definition.columns, (target.types.map column.sqlType).known = false

/-- Whether some comparison has an operator without a name of its own. -/
def Filter.HasUnknownOperator (filter : Filter) : Prop :=
  ∃ leaf ∈ filter.leaves, leaf.comparator.isOther = true

namespace Statement

/-- The columns that a statement defines or gives values. -/
def writtenColumns : Statement → List String
  | create definition => definition.columns.map Column.name
  | insert inserted => inserted.columns
  | update updated => updated.assignments.map Assignment.column
  | select _ | delete _ | unsupported _ => []

def HasUnknownType (target : Target) : Statement → Prop
  | create definition => definition.HasUnknownType target
  | _ => False

def HasUnknownOperator (statement : Statement) : Prop :=
  ∃ filter ∈ statement.filter?, filter.HasUnknownOperator

end Statement

namespace Settings

/-- Whether the settings do not let a type or an operator of a statement pass. -/
def Refuses (settings : Settings) (target : Target) (statement : Statement) : Prop :=
  settings.unknownTypes = .strict ∧ statement.HasUnknownType target ∨
    settings.unknownOperators = .strict ∧ statement.HasUnknownOperator

def RefusesFilter (settings : Settings) (given? : Option Filter) : Prop :=
  settings.unknownOperators = .strict ∧ ∃ filter ∈ given?, filter.HasUnknownOperator

end Settings

namespace Context

theorem steady_columnType (target : Target) (column : Column) :
    Steady (fun settings => columnType ⟨target, settings⟩ column) fun settings =>
      settings.unknownTypes = .strict ∧ (target.types.map column.sqlType).known = false := by
  refine ⟨(target.types.map column.sqlType).rendered, fun settings => ?_⟩
  dsimp only [columnType]
  split
  · next accepted => exact .passes fun refused => by simp [refused] at accepted
  · next refused =>
      simp only [Bool.or_eq_true, beq_iff_eq, not_or, Bool.not_eq_true] at refused
      refine .fails ⟨?_, refused.1⟩ _
      cases policy : settings.unknownTypes with
      | lenient => exact absurd policy refused.2
      | strict => rfl

theorem steady_checkOperator (target : Target) (column token : String) :
    Steady (fun settings => checkOperator ⟨target, settings⟩ target column token) fun settings =>
      settings.unknownOperators = .strict := by
  refine ⟨(), fun settings => ?_⟩
  dsimp only [checkOperator]
  cases settings.unknownOperators with
  | lenient => exact .passes (by simp)
  | strict => exact .fails rfl _

/-- The lines of several columns are refused when the type of one of them is. -/
theorem steady_fields {Item : Type} (target : Target) (column : Item → Column)
    (write : Item → String → String) (items : List Item) :
    Steady
      (fun settings => items.mapM fun item =>
        columnType ⟨target, settings⟩ (column item) >>= fun type => .ok (write item type))
      fun settings => settings.unknownTypes = .strict ∧
        ∃ given ∈ items.map column, (target.types.map given.sqlType).known = false := by
  have each := Steady.mapM fun item (_ : item ∈ items) =>
    (steady_columnType target (column item)).bind_ok (write item)
  exact each.congr fun settings => by
    simp only [List.mem_map, exists_exists_and_eq_and, and_left_comm, exists_and_left]

end Context

/-- A rendered filter is refused for its operators if the comparisons are refused for theirs. -/
theorem Filter.steady_of_comparison {comparison : Settings → Comparison → Except Fault String}
    {combine : Connective → List String → String} {negate : String → String}
    (each : ∀ leaf, Steady (fun settings => comparison settings leaf) fun settings =>
      settings.unknownOperators = .strict ∧ leaf.comparator.isOther = true) (filter : Filter) :
    Steady (fun settings => filter.render ⟨comparison settings, combine, negate⟩)
      fun settings => settings.RefusesFilter (some filter) := by
  refine (filter.steady_render each).congr fun settings => ?_
  simp only [Settings.RefusesFilter, HasUnknownOperator, and_left_comm, exists_and_left,
    Option.mem_some_iff, exists_eq_left']

namespace Sequelize

theorem steady_comparison (leaf : Comparison) :
    Steady (fun settings => comparison ⟨.sequelize, settings⟩ leaf) fun settings =>
      settings.unknownOperators = .strict ∧ leaf.comparator.isOther = true := by
  obtain ⟨column, comparator, operand⟩ := leaf
  cases comparator with
  | other token =>
      have checked := (Context.steady_checkOperator .sequelize column token).bind_ok fun _ =>
        "sequelize.where(sequelize.col(" ++ Text.quoted column ++ "), " ++
          Text.quoted token ++ ", " ++ Sequelize.operand operand ++ ")"
      exact checked.congr fun settings => by simp [Comparator.isOther]
  | _ => exact (Steady.const _).congr fun settings => by simp [Comparator.isOther]

theorem steady_filter? (given? : Option Filter) :
    Steady (fun settings => filter? ⟨.sequelize, settings⟩ given?) fun settings =>
      settings.RefusesFilter given? := by
  cases given? with
  | none => exact (Steady.const none).congr fun settings => by simp [Settings.RefusesFilter]
  | some filter =>
      have rendered : Steady (fun settings => filter.render (renderer ⟨.sequelize, settings⟩)) _ :=
        filter.steady_of_comparison steady_comparison
      exact rendered.map some

theorem steady_definition {definition : TableDefinition} (valid : definition.validate = .ok ()) :
    Steady (fun settings => Sequelize.definition ⟨.sequelize, settings⟩ definition) fun settings =>
      settings.unknownTypes = .strict ∧ definition.HasUnknownType .sequelize := by
  have fields := Context.steady_fields .sequelize id (fun column type =>
    "  " ++ Text.javascriptKey column.name ++ ": " ++ object (attributes column type))
    definition.columns
  rw [List.map_id] at fields
  simp only [Sequelize.definition, valid]
  exact fields.bind_ok _

theorem steady_insertion {inserted : Insertion} (valid : inserted.validate = .ok ()) :
    Steady (fun _ => insertion inserted) fun _ => False := by
  simp only [insertion, valid]
  exact Steady.const _

theorem steady_selection (selected : Selection) :
    Steady (fun settings => selection ⟨.sequelize, settings⟩ selected) fun settings =>
      settings.RefusesFilter selected.filter? :=
  (steady_filter? selected.filter?).bind_ok _

theorem steady_modification {updated : Update} (valid : updated.validate = .ok ()) :
    Steady (fun settings => modification ⟨.sequelize, settings⟩ updated) fun settings =>
      settings.RefusesFilter updated.filter? := by
  simp only [modification, valid]
  exact (steady_filter? updated.filter?).bind_ok _

theorem steady_deletion (deleted : Deletion) :
    Steady (fun settings => deletion ⟨.sequelize, settings⟩ deleted) fun settings =>
      settings.RefusesFilter deleted.filter? :=
  (steady_filter? deleted.filter?).bind_ok _

end Sequelize

namespace SqlAlchemy

theorem steady_comparison (model : String) (leaf : Comparison) :
    Steady (fun settings => comparison ⟨.sqlAlchemy, settings⟩ model leaf) fun settings =>
      settings.unknownOperators = .strict ∧ leaf.comparator.isOther = true := by
  obtain ⟨column, comparator, operand⟩ := leaf
  cases comparator with
  | other token =>
      have checked := (Context.steady_checkOperator .sqlAlchemy column token).bind_ok fun _ =>
        call (call (attributeOf model column ++ ".op") [Text.quoted token])
          [SqlAlchemy.operand operand]
      exact checked.congr fun settings => by simp [Comparator.isOther]
  | _ => exact (Steady.const _).congr fun settings => by simp [Comparator.isOther]

theorem steady_filterCall (model : String) (given? : Option Filter) :
    Steady (fun settings => filterCall ⟨.sqlAlchemy, settings⟩ model given?) fun settings =>
      settings.RefusesFilter given? := by
  cases given? with
  | none => exact (Steady.const "").congr fun settings => by simp [Settings.RefusesFilter]
  | some filter =>
      have rendered :
          Steady (fun settings => filter.render (renderer ⟨.sqlAlchemy, settings⟩ model)) _ :=
        filter.steady_of_comparison (steady_comparison model)
      exact rendered.map _

/-- Columns are refused under any settings when two of them share an attribute. -/
theorem steady_attributeNames (table : String) (columns : List String) :
    Steady (fun _ => attributeNames table columns) fun _ => ¬AttributesDiffer columns := by
  refine ⟨columns.map Text.pythonIdentifier, fun settings => ?_⟩
  obtain ⟨differ, passed⟩ | ⟨shared, owner, column, failed⟩ := attributeNames_cases table columns
  · rw [passed]
    exact .passes (not_not.mpr differ)
  · rw [failed]
    exact .fails shared _

theorem steady_definition {definition : TableDefinition} (valid : definition.validate = .ok ()) :
    Steady (fun settings => SqlAlchemy.definition ⟨.sqlAlchemy, settings⟩ definition) fun settings =>
      ¬AttributesDiffer (definition.columns.map Column.name) ∨
        settings.unknownTypes = .strict ∧ definition.HasUnknownType .sqlAlchemy := by
  have fields := Context.steady_fields .sqlAlchemy Prod.fst (fun item type =>
    "    " ++ item.2 ++ " = " ++ call "Column" (columnArguments item.1 item.2 type))
    (definition.columns.zip ((definition.columns.map Column.name).map Text.pythonIdentifier))
  simp only [SqlAlchemy.definition, valid]
  obtain ⟨differ, passed⟩ | ⟨shared, owner, column, failed⟩ :=
    attributeNames_cases definition.table (definition.columns.map Column.name)
  · simp only [passed]
    refine (fields.bind_ok _).congr fun settings => ?_
    rw [List.map_fst_zip (by simp), ← TableDefinition.HasUnknownType, or_iff_right (not_not.mpr differ)]
  · simp only [failed]
    exact ⟨"", fun settings => .fails (.inl shared) _⟩

theorem steady_insertion {inserted : Insertion} (valid : inserted.validate = .ok ()) :
    Steady (fun _ => insertion inserted) fun _ => ¬AttributesDiffer inserted.columns := by
  simp only [insertion, valid]
  exact (steady_attributeNames inserted.table inserted.columns).bind_ok _

theorem steady_selection (selected : Selection) :
    Steady (fun settings => selection ⟨.sqlAlchemy, settings⟩ selected) fun settings =>
      settings.RefusesFilter selected.filter? :=
  (steady_filterCall _ selected.filter?).bind_ok _

theorem steady_modification {updated : Update} (valid : updated.validate = .ok ()) :
    Steady (fun settings => modification ⟨.sqlAlchemy, settings⟩ updated) fun settings =>
      ¬AttributesDiffer (updated.assignments.map Assignment.column) ∨
        settings.RefusesFilter updated.filter? := by
  simp only [modification, valid]
  exact (steady_attributeNames updated.table (updated.assignments.map Assignment.column)).bind
    fun names => (steady_filterCall _ updated.filter?).bind_ok _

theorem steady_deletion (deleted : Deletion) :
    Steady (fun settings => deletion ⟨.sqlAlchemy, settings⟩ deleted) fun settings =>
      settings.RefusesFilter deleted.filter? :=
  (steady_filterCall _ deleted.filter?).bind_ok _

end SqlAlchemy

namespace Statement

theorem refuses_create (settings : Settings) (target : Target) (definition : TableDefinition) :
    settings.Refuses target (create definition) ↔
      settings.unknownTypes = .strict ∧ definition.HasUnknownType target := by
  simp [Settings.Refuses, HasUnknownType, HasUnknownOperator, filter?]

theorem refuses_insert (settings : Settings) (target : Target) (inserted : Insertion) :
    ¬settings.Refuses target (insert inserted) := by
  simp [Settings.Refuses, HasUnknownType, HasUnknownOperator, filter?]

theorem refuses_iff_refusesFilter {statement : Statement} {target : Target}
    (noTypes : ¬statement.HasUnknownType target) (settings : Settings) :
    settings.Refuses target statement ↔ settings.RefusesFilter statement.filter? := by
  simp [Settings.Refuses, Settings.RefusesFilter, HasUnknownOperator, noTypes]

theorem steady_sequelize {statement : Statement} {kind : StatementKind}
    (known : statement.kind? = some kind) (valid : statement.validate = .ok ()) :
    Steady (fun settings => HandlerTable.complete.generate settings statement .sequelize)
      fun settings => settings.Refuses .sequelize statement := by
  cases statement with
  | create definition =>
      refine (Sequelize.steady_definition valid).congr fun settings => ?_
      rw [refuses_create]
  | insert inserted =>
      refine (Sequelize.steady_insertion valid).congr fun settings => ?_
      rw [false_iff]
      exact refuses_insert settings _ inserted
  | select selected =>
      refine (Sequelize.steady_selection selected).congr fun settings => ?_
      exact Iff.symm (refuses_iff_refusesFilter id settings)
  | update updated =>
      refine (Sequelize.steady_modification valid).congr fun settings => ?_
      exact Iff.symm (refuses_iff_refusesFilter id settings)
  | delete deleted =>
      refine (Sequelize.steady_deletion deleted).congr fun settings => ?_
      exact Iff.symm (refuses_iff_refusesFilter id settings)
  | unsupported name => cases known

/-- Code of a valid statement for SQLAlchemy is refused by the settings or because two
columns share an attribute. -/
theorem steady_sqlAlchemy {statement : Statement} {kind : StatementKind}
    (known : statement.kind? = some kind) (valid : statement.validate = .ok ()) :
    Steady (fun settings => HandlerTable.complete.generate settings statement .sqlAlchemy)
      fun settings => ¬SqlAlchemy.AttributesDiffer statement.writtenColumns ∨
        settings.Refuses .sqlAlchemy statement := by
  have none : SqlAlchemy.AttributesDiffer [] := by simp [SqlAlchemy.AttributesDiffer]
  cases statement with
  | create definition =>
      refine (SqlAlchemy.steady_definition valid).congr fun settings => ?_
      rw [refuses_create]
      rfl
  | insert inserted =>
      refine (SqlAlchemy.steady_insertion valid).congr fun settings => ?_
      exact Iff.symm (or_iff_left (refuses_insert settings _ inserted))
  | select selected =>
      refine (SqlAlchemy.steady_selection selected).congr fun settings => ?_
      rw [writtenColumns, or_iff_right (not_not.mpr none)]
      exact Iff.symm (refuses_iff_refusesFilter id settings)
  | update updated =>
      refine (SqlAlchemy.steady_modification valid).congr fun settings => ?_
      exact or_congr_right (Iff.symm (refuses_iff_refusesFilter id settings))
  | delete deleted =>
      refine (SqlAlchemy.steady_deletion deleted).congr fun settings => ?_
      rw [writtenColumns, or_iff_right (not_not.mpr none)]
      exact Iff.symm (refuses_iff_refusesFilter id settings)
  | unsupported name => cases known

/-- A flaw of a statement is the fault of its code for every target. -/
theorem generate_of_flaw {statement : Statement} {flaw : Flaw}
    (flawed : statement.validate = .error flaw) (settings : Settings) (target : Target) :
    HandlerTable.complete.generate settings statement target = .error flaw.fault := by
  have refused : ∀ next : Unit → Except Fault String,
      (statement.validate.mapError Flaw.fault >>= next) = .error flaw.fault := by
    intro next
    rw [flawed]
    rfl
  cases statement with
  | create definition => cases target <;> exact refused _
  | insert inserted => cases target <;> exact refused _
  | update updated => cases target <;> exact refused _
  | select selected => cases flawed
  | delete deleted => cases flawed
  | unsupported name => cases flawed

theorem generate_unsupported (name : String) (settings : Settings) (target : Target) :
    HandlerTable.complete.generate settings (unsupported name) target =
      .error (.unsupportedStatement name target) := rfl

end Statement

end OrmCode
