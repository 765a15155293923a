import OrmCode.Proofs.Code.Refusal
import OrmCode.Proofs.Code.TypeTable

/-!
# One statement for both targets and under all settings

Both targets make code of the same statements but for the attributes of Python, and
stricter settings take code away without changing any.
-/

namespace OrmCode

open HandlerTable (complete)

namespace Statement

theorem hasUnknownType_target (statement : Statement) (target other : Target) :
    statement.HasUnknownType target ↔ statement.HasUnknownType other := by
  cases statement with
  | create definition =>
      have same := TypeTable.known_map_congr ((names_types target).trans (names_types other).symm)
      simp only [HasUnknownType, TableDefinition.HasUnknownType, same]
  | _ => exact Iff.rfl

/-- A statement is of no kind, or it is flawed, or for each target it has one code under
all settings that do not refuse it. -/
theorem generate_cases (statement : Statement) :
    (∃ name, statement = unsupported name) ∨ (∃ flaw, statement.validate = .error flaw) ∨
      ∀ target, ∃ code, ∀ settings : Settings,
        ValueUnless
          ((target = .sqlAlchemy ∧ ¬SqlAlchemy.AttributesDiffer statement.writtenColumns) ∨
            settings.Refuses target statement)
          code (complete.generate settings statement target) := by
  cases known : statement.kind? with
  | none =>
      cases statement with
      | unsupported name => exact .inl ⟨name, rfl⟩
      | _ => cases known
  | some kind =>
      cases checked : statement.validate with
      | error flaw => exact .inr (.inl ⟨flaw, rfl⟩)
      | ok nothing =>
          refine .inr (.inr fun target => ?_)
          cases target with
          | sequelize => exact (steady_sequelize known checked).congr fun settings => by simp
          | sqlAlchemy => exact (steady_sqlAlchemy known checked).congr fun settings => by simp

end Statement

theorem Settings.refuses_target (settings : Settings) (statement : Statement)
    (target other : Target) :
    settings.Refuses target statement ↔ settings.Refuses other statement := by
  rw [Refuses, Refuses, statement.hasUnknownType_target target other]

/-- A flawed statement fails alike for both targets, and what fails for Sequelize fails
for SQLAlchemy with the same code.  What does not fail for Sequelize fails for SQLAlchemy
exactly if it gives two different columns one attribute. -/
theorem targets_agree (settings : Settings) (statement : Statement) :
    (∀ flaw, statement.validate = .error flaw → ∀ target,
      complete.generate settings statement target = .error flaw.fault) ∧
    (∀ fault, complete.generate settings statement .sequelize = .error fault →
      ∃ other, complete.generate settings statement .sqlAlchemy = .error other ∧
        other.code = fault.code) ∧
    (∀ code, complete.generate settings statement .sequelize = .ok code →
      ((∃ fault, complete.generate settings statement .sqlAlchemy = .error fault) ↔
        ∃ first ∈ statement.writtenColumns, ∃ second ∈ statement.writtenColumns,
          first ≠ second ∧ Text.pythonIdentifier first = Text.pythonIdentifier second) ∧
      ∀ fault, complete.generate settings statement .sqlAlchemy = .error fault →
        ∃ description, fault = .unsupportedConstruct description) := by
  refine ⟨fun flaw flawed => Statement.generate_of_flaw flawed settings, ?_, ?_⟩
  · intro fault failed
    obtain ⟨name, rfl⟩ | ⟨flaw, flawed⟩ | steady := statement.generate_cases
    · obtain rfl := Except.error.inj failed
      exact ⟨_, Statement.generate_unsupported name settings .sqlAlchemy, rfl⟩
    · rw [Statement.generate_of_flaw flawed] at failed ⊢
      obtain rfl := Except.error.inj failed
      exact ⟨_, rfl, rfl⟩
    · obtain ⟨_, first⟩ := steady .sequelize
      obtain ⟨_, second⟩ := steady .sqlAlchemy
      have refused := ((first settings).exists_error_iff.mp ⟨fault, failed⟩).resolve_left
        fun impossible => nomatch impossible.1
      rw [settings.refuses_target statement .sequelize .sqlAlchemy] at refused
      obtain ⟨other, failedToo⟩ := (second settings).exists_error_iff.mpr (.inr refused)
      obtain ⟨description, rfl⟩ := (first settings).unsupported_of_error failed
      obtain ⟨otherDescription, rfl⟩ := (second settings).unsupported_of_error failedToo
      exact ⟨_, failedToo, rfl⟩
  · intro code passed
    obtain ⟨name, rfl⟩ | ⟨flaw, flawed⟩ | steady := statement.generate_cases
    · cases passed
    · rw [Statement.generate_of_flaw flawed] at passed
      cases passed
    · obtain ⟨_, first⟩ := steady .sequelize
      obtain ⟨_, second⟩ := steady .sqlAlchemy
      have accepted := ((first settings).eq_ok_iff.mp passed).1
      rw [settings.refuses_target statement .sequelize .sqlAlchemy, not_or] at accepted
      refine ⟨?_, fun fault => (second settings).unsupported_of_error⟩
      rw [(second settings).exists_error_iff, or_iff_left accepted.2,
        ← SqlAlchemy.not_attributesDiffer_iff]
      simp

/-- Columns that JavaScript tells apart and Python does not. -/
def mergedColumns : Statement :=
  .insert { table := "t", columns := ["a b", "a-b"], rows := [[.number "1", .null]] }

theorem mergedColumns_agree :
    complete.generate {} mergedColumns .sequelize =
        .ok "await t.create(\x7b 'a b': 1, 'a-b': null \x7d);" ∧
      ∃ description, complete.generate {} mergedColumns .sqlAlchemy =
        .error (.unsupportedConstruct description) := by
  have passed : complete.generate {} mergedColumns .sequelize =
      .ok "await t.create(\x7b 'a b': 1, 'a-b': null \x7d);" := by decide +kernel
  obtain ⟨merges, unsupported⟩ := (targets_agree {} mergedColumns).2.2 _ passed
  have shared : Text.pythonIdentifier "a b" = Text.pythonIdentifier "a-b" := by decide
  obtain ⟨fault, failed⟩ := merges.mpr
    ⟨"a b", by decide, "a-b", by decide, by decide, shared⟩
  obtain ⟨description, rfl⟩ := unsupported fault failed
  exact ⟨passed, description, failed⟩

/-- Whether settings differ from others at most in policies that are strict in them. -/
structure Settings.Tightens (stricter settings : Settings) : Prop where
  dialect : stricter.dialect = settings.dialect
  maxLength : stricter.maxLength = settings.maxLength
  unknownTypes : stricter.unknownTypes = settings.unknownTypes ∨ stricter.unknownTypes = .strict
  unknownOperators :
    stricter.unknownOperators = settings.unknownOperators ∨ stricter.unknownOperators = .strict

namespace Settings.Tightens

variable {stricter settings : Settings}

/-- Stricter settings refuse in addition what differs in its policy. -/
theorem refuses_iff (tightens : stricter.Tightens settings) (target : Target)
    (statement : Statement) :
    stricter.Refuses target statement ↔ settings.Refuses target statement ∨
      (stricter.unknownTypes ≠ settings.unknownTypes ∧ statement.HasUnknownType target ∨
        stricter.unknownOperators ≠ settings.unknownOperators ∧ statement.HasUnknownOperator) := by
  have split : ∀ {policy strictPolicy : Policy}, strictPolicy = policy ∨ strictPolicy = .strict →
      (strictPolicy = .strict ↔ policy = .strict ∨ strictPolicy ≠ policy) := by
    intro policy strictPolicy
    cases policy <;> cases strictPolicy <;> simp
  rw [Refuses, Refuses, split tightens.unknownTypes, split tightens.unknownOperators]
  tauto

end Settings.Tightens

/-- Stricter settings take code away without changing any, and they do so with the fault of a
construct and exactly for an unknown type or an unknown operator that they newly refuse. -/
theorem generate_of_tightens {stricter settings : Settings}
    (tightens : stricter.Tightens settings) (statement : Statement) (target : Target) :
    (∀ code, complete.generate stricter statement target = .ok code →
      complete.generate settings statement target = .ok code) ∧
    (∀ code fault, complete.generate settings statement target = .ok code →
      complete.generate stricter statement target = .error fault →
      (∃ description, fault = .unsupportedConstruct description) ∧
        (stricter.unknownTypes ≠ settings.unknownTypes ∧ statement.HasUnknownType target ∨
          stricter.unknownOperators ≠ settings.unknownOperators ∧
            statement.HasUnknownOperator)) ∧
    (stricter.unknownTypes ≠ settings.unknownTypes ∧ statement.HasUnknownType target ∨
        stricter.unknownOperators ≠ settings.unknownOperators ∧ statement.HasUnknownOperator →
      ∃ fault, complete.generate stricter statement target = .error fault) := by
  obtain ⟨name, rfl⟩ | ⟨flaw, flawed⟩ | steady := statement.generate_cases
  · refine ⟨nofun, nofun, fun _ => ⟨_, Statement.generate_unsupported name stricter target⟩⟩
  · simp only [Statement.generate_of_flaw flawed]
    exact ⟨nofun, nofun, fun _ => ⟨_, rfl⟩⟩
  · obtain ⟨code, each⟩ := steady target
    have tighter := each stricter
    rw [tightens.refuses_iff, ← or_assoc] at tighter
    refine ⟨fun found passed => ?_, fun found fault passed failed => ?_, fun lost => ?_⟩
    · obtain ⟨accepted, same⟩ := tighter.eq_ok_iff.mp passed
      exact (each settings).eq_ok_iff.mpr ⟨fun refused => accepted (.inl refused), same⟩
    · refine ⟨tighter.unsupported_of_error failed, ?_⟩
      have accepted := ((each settings).eq_ok_iff.mp passed).1
      exact (tighter.exists_error_iff.mp ⟨fault, failed⟩).resolve_left accepted
    · exact tighter.exists_error_iff.mpr (.inr lost)

/-- A deletion with an operator that no target has a name for, deep within its filter. -/
def nestedOperator : Statement :=
  .delete {
    table := "t"
    filter? := some (.negation (.group .disjunction [.group .conjunction
      [.compare "a" (.other "@>") (.number "1")]])) }

theorem generate_nestedOperator :
    (Settings.strict {}).Tightens {} ∧
      complete.generate {} nestedOperator .sqlAlchemy =
        .ok "session.query(t).filter(not_(t.a.op('@>')(1))).delete()
session.commit()" ∧
      ∃ fault, complete.generate (Settings.strict {}) nestedOperator .sqlAlchemy = .error fault := by
  have tightens : (Settings.strict {}).Tightens {} := ⟨rfl, rfl, .inr rfl, .inr rfl⟩
  have passed : complete.generate {} nestedOperator .sqlAlchemy =
      .ok "session.query(t).filter(not_(t.a.op('@>')(1))).delete()
session.commit()" := by
    decide +kernel
  have unknown : nestedOperator.HasUnknownOperator := ⟨_, rfl, _, List.mem_cons_self, rfl⟩
  refine ⟨tightens, passed, ?_⟩
  exact (generate_of_tightens tightens nestedOperator .sqlAlchemy).2.2
    (.inr ⟨by decide, unknown⟩)

end OrmCode
