import Mathlib.Data.List.Basic
import Mathlib.Data.List.Induction
import OrmCode.Code.HandlerTable

/-!
# Tables after registrations

Handlers are registered one by one or for a whole target at once.  What a table holds
in a place is the last handler registered for it, and code of a statement is what that
handler makes of it.
-/

namespace OrmCode

/-- A change to a table: a handler for one place, or the built-in handlers of a target. -/
inductive Registration
  | single (kind : StatementKind) (target : Target) (handler : Handler)
  | builtIns (target : Target)

namespace Registration

/-- The handler that a registration puts in a place, if it puts one there. -/
def handlerFor? (kind : StatementKind) (target : Target) : Registration → Option Handler
  | single changedKind changedTarget handler =>
    if changedKind = kind ∧ changedTarget = target then some handler else none
  | builtIns changedTarget =>
    if changedTarget = target then some (HandlerTable.builtIn kind target) else none

end Registration

/-- The handlers that registrations put in a place, first to last. -/
def handlersFor (kind : StatementKind) (target : Target) (registrations : List Registration) :
    List Handler :=
  registrations.filterMap (Registration.handlerFor? kind target)

theorem handlersFor_append (kind : StatementKind) (target : Target)
    (before after : List Registration) :
    handlersFor kind target (before ++ after) =
      handlersFor kind target before ++ handlersFor kind target after :=
  List.filterMap_append

namespace HandlerTable

/-- The table after one registration. -/
def apply (table : HandlerTable) : Registration → HandlerTable
  | .single kind target handler => (table.exchange kind target handler).2
  | .builtIns target => table.registerTarget target

/-- The table after several registrations. -/
def applyAll (table : HandlerTable) (registrations : List Registration) : HandlerTable :=
  registrations.foldl apply table

/-- The handler that a place holds after registrations: the last one registered for it, or
else the one that stood there before. -/
def held? (start : HandlerTable) (registrations : List Registration) (kind : StatementKind)
    (target : Target) : Option Handler :=
  (handlersFor kind target registrations).getLast?.or (start.get? kind target)

/-- Whether a place had a handler at the start or was given one by a registration. -/
def IsFilled (start : HandlerTable) (registrations : List Registration) (kind : StatementKind)
    (target : Target) : Prop :=
  (start.get? kind target).isSome = true ∨ handlersFor kind target registrations ≠ []

theorem isSome_held?_iff {start : HandlerTable} {registrations : List Registration}
    {kind : StatementKind} {target : Target} :
    (start.held? registrations kind target).isSome = true ↔
      start.IsFilled registrations kind target := by
  rw [held?, Option.isSome_or, Bool.or_eq_true, List.getLast?_isSome, or_comm, IsFilled]

theorem get?_empty (kind : StatementKind) (target : Target) : empty.get? kind target = none := rfl

theorem get?_registerTarget (table : HandlerTable) (changed : Target) (kind : StatementKind)
    (target : Target) :
    (table.registerTarget changed).get? kind target =
      if changed = target then some (builtIn kind changed) else table.get? kind target := by
  by_cases same : changed = target
  · subst same
    rw [if_pos rfl]
    cases kind <;> simp [registerTarget, StatementKind.all, register]
  · have others : ∀ changedKind, ¬(kind = changedKind ∧ target = changed) :=
      fun changedKind both => same both.2.symm
    rw [if_neg same]
    simp only [registerTarget, StatementKind.all, List.foldl_cons, List.foldl_nil,
      get?_register_of_ne (others _)]

theorem get?_complete (kind : StatementKind) (target : Target) :
    complete.get? kind target = some (builtIn kind target) := by
  cases target <;> simp [complete, Target.all, get?_registerTarget]

/-- One registration changes the places that it puts a handler in and no other. -/
theorem get?_apply (table : HandlerTable) (registration : Registration) (kind : StatementKind)
    (target : Target) :
    (table.apply registration).get? kind target =
      (registration.handlerFor? kind target).or (table.get? kind target) := by
  cases registration with
  | single changedKind changedTarget handler =>
      simp only [apply, exchange, register, Registration.handlerFor?, @eq_comm _ kind,
        @eq_comm _ target]
      split <;> rfl
  | builtIns changed =>
      rw [apply, get?_registerTarget, Registration.handlerFor?]
      split
      · next same => rw [same, Option.some_or]
      · rfl

theorem applyAll_concat (table : HandlerTable) (registrations : List Registration)
    (last : Registration) :
    table.applyAll (registrations ++ [last]) = (table.applyAll registrations).apply last :=
  List.foldl_append

/-- A place holds the last handler that was registered for it. -/
theorem get?_applyAll (start : HandlerTable) (registrations : List Registration)
    (kind : StatementKind) (target : Target) :
    (start.applyAll registrations).get? kind target = start.held? registrations kind target := by
  -- The last registration decides, so the list is taken apart at its end.
  induction registrations using List.reverseRecOn with
  | nil => rfl
  | append_singleton registrations last induction =>
      rw [applyAll_concat, get?_apply, induction, held?, held?, handlersFor_append]
      cases put : last.handlerFor? kind target with
      | none => simp [handlersFor, put]
      | some handler => simp [handlersFor, put]

/-- Whether a place comes before another, target by target and then kind by kind. -/
def Precedes (first second : StatementKind × Target) : Prop :=
  Target.all.idxOf first.2 < Target.all.idxOf second.2 ∨
    first.2 = second.2 ∧ StatementKind.all.idxOf first.1 < StatementKind.all.idxOf second.1

instance : DecidableRel Precedes := fun _ _ => inferInstanceAs (Decidable (_ ∨ _))

theorem mem_places (place : StatementKind × Target) : place ∈ places := by
  obtain ⟨kind, target⟩ := place
  cases kind <;> cases target <;> decide

theorem pairwise_places : places.Pairwise Precedes := by
  decide

theorem mem_missing_iff {table : HandlerTable} {kind : StatementKind} {target : Target} :
    (kind, target) ∈ table.missing ↔ table.get? kind target = none := by
  simp [missing, isTaken, mem_places]

theorem pairwise_missing (table : HandlerTable) : table.missing.Pairwise Precedes :=
  pairwise_places.filter _

theorem size_add_length_missing (table : HandlerTable) :
    table.size + table.missing.length = places.length :=
  (List.length_eq_length_filter_add _).symm

theorem generate_of_get? {table : HandlerTable} {statement : Statement} {kind : StatementKind}
    {target : Target} {handler : Handler} (dispatched : statement.kind? = some kind)
    (found : table.get? kind target = some handler) (settings : Settings) :
    table.generate settings statement target = handler statement ⟨target, settings⟩ := by
  rw [generate, dispatched, Option.bind_some, found]

theorem generate_of_none {table : HandlerTable} {statement : Statement} {target : Target}
    (absent : ∀ kind, statement.kind? = some kind → table.get? kind target = none)
    (settings : Settings) :
    table.generate settings statement target =
      .error (.unsupportedStatement statement.kindName target) := by
  rw [generate]
  cases dispatched : statement.kind? with
  | none => rfl
  | some kind => rw [Option.bind_some, absent kind dispatched]

end HandlerTable

namespace Sequelize

/-- A handler refuses every statement of another kind. -/
theorem handler_of_kind_ne {kind : StatementKind} {statement : Statement}
    (foreign : statement.kind? ≠ some kind) (context : Context) :
    handler kind statement context = .error (context.unexpected statement) := by
  cases kind <;> cases statement <;> first | rfl | exact absurd rfl foreign

end Sequelize

namespace SqlAlchemy

theorem handler_of_kind_ne {kind : StatementKind} {statement : Statement}
    (foreign : statement.kind? ≠ some kind) (context : Context) :
    handler kind statement context = .error (context.unexpected statement) := by
  cases kind <;> cases statement <;> first | rfl | exact absurd rfl foreign

end SqlAlchemy

namespace HandlerTable

theorem builtIn_of_kind_ne {kind : StatementKind} {statement : Statement}
    (foreign : statement.kind? ≠ some kind) (origin : Target) (context : Context) :
    builtIn kind origin statement context = .error (context.unexpected statement) := by
  cases origin with
  | sequelize => exact Sequelize.handler_of_kind_ne foreign context
  | sqlAlchemy => exact SqlAlchemy.handler_of_kind_ne foreign context

/-- What registrations leave behind.  A place holds the last handler that was registered for
it, which is also the one that the next registration replaces.  The empty places are listed
in order.  Code of a statement is what the handler of its place makes of it for that target,
and without one, or with a handler for statements of another kind, it is refused. -/
theorem table_of_registrations (start : HandlerTable) (registrations : List Registration)
    (settings : Settings) :
    let table := start.applyAll registrations
    (∀ kind target, ¬empty.IsFilled [] kind target ∧
      complete.held? [] kind target = some (builtIn kind target)) ∧
    (∀ kind target, table.get? kind target = start.held? registrations kind target) ∧
    (∀ kind target handler,
      table.exchange kind target handler =
          (start.held? registrations kind target,
            start.applyAll (registrations ++ [.single kind target handler])) ∧
        ((table.exchange kind target handler).1.isSome = true ↔
          start.IsFilled registrations kind target)) ∧
    (∀ kind target, (kind, target) ∈ table.missing ↔
      ¬start.IsFilled registrations kind target) ∧
    table.missing.Pairwise Precedes ∧
    table.size + table.missing.length = 10 ∧
    (∀ statement target,
      (∀ kind, statement.kind? = some kind → ¬start.IsFilled registrations kind target) →
        table.generate settings statement target =
          .error (.unsupportedStatement statement.kindName target)) ∧
    (∀ statement kind target handler, statement.kind? = some kind →
      start.held? registrations kind target = some handler →
        table.generate settings statement target = handler statement ⟨target, settings⟩) ∧
    ∀ statement kind target other origin, statement.kind? = some kind →
      start.held? registrations kind target = some (builtIn other origin) → other ≠ kind →
        table.generate settings statement target =
          .error (.unsupportedStatement statement.kindName target) := by
  intro table
  have content := get?_applyAll start registrations
  have absent : ∀ kind target, table.get? kind target = none ↔
      ¬start.IsFilled registrations kind target := by
    intro kind target
    rw [content, ← isSome_held?_iff, Option.not_isSome_iff_eq_none]
  have dispatch : ∀ statement kind target handler, statement.kind? = some kind →
      start.held? registrations kind target = some handler →
        table.generate settings statement target = handler statement ⟨target, settings⟩ :=
    fun statement kind target handler dispatched held =>
      generate_of_get? dispatched ((content kind target).trans held) settings
  refine ⟨fun kind target =>
      ⟨by simp [IsFilled, handlersFor, get?_empty], get?_complete kind target⟩,
    content, ?_, ?_, pairwise_missing table, size_add_length_missing table, ?_, dispatch, ?_⟩
  · intro kind target handler
    have replaced : (table.exchange kind target handler).1 =
        start.held? registrations kind target := content kind target
    have following : (table.exchange kind target handler).2 =
        start.applyAll (registrations ++ [.single kind target handler]) :=
      (applyAll_concat start registrations (.single kind target handler)).symm
    exact ⟨Prod.ext replaced following, replaced ▸ isSome_held?_iff⟩
  · intro kind target
    rw [mem_missing_iff, absent]
  · intro statement target unfilled
    have nowhere : ∀ kind, statement.kind? = some kind → table.get? kind target = none :=
      fun kind dispatched => (absent kind target).mpr (unfilled kind dispatched)
    exact generate_of_none nowhere settings
  · intro statement kind target other origin dispatched held foreign
    rw [dispatch statement kind target _ dispatched held]
    refine builtIn_of_kind_ne (fun same => foreign ?_) origin _
    exact Option.some.inj (same.symm.trans dispatched)

/-- A handler of deletions in the place of selections, after all handlers of its target. -/
def crossedRegistrations : List Registration :=
  [.builtIns .sequelize, .single .select .sequelize (builtIn .delete .sqlAlchemy)]

/-- The misplaced handler refuses selections, what no handler was registered for is refused as
well, and deletions have the code that their own handler makes. -/
theorem table_of_crossedRegistrations :
    let table := empty.applyAll crossedRegistrations
    table.generate {} (.select { table := "users" }) .sequelize =
        .error (.unsupportedStatement "select" .sequelize) ∧
      table.generate {} (.delete { table := "users" }) .sqlAlchemy =
        .error (.unsupportedStatement "delete" .sqlAlchemy) ∧
      table.generate {} (.delete { table := "users" }) .sequelize =
        .ok "await users.destroy();" := by
  obtain ⟨-, -, -, -, -, -, refused, dispatched, misplaced⟩ :=
    table_of_registrations empty crossedRegistrations {}
  have crossed : empty.held? crossedRegistrations .select .sequelize =
      some (builtIn .delete .sqlAlchemy) := rfl
  have own : empty.held? crossedRegistrations .delete .sequelize =
      some (builtIn .delete .sequelize) := rfl
  have unfilled : ∀ kind, ¬empty.IsFilled crossedRegistrations kind .sqlAlchemy := by
    intro kind
    rw [← isSome_held?_iff]
    cases kind <;> exact Bool.false_ne_true
  have made := dispatched (.delete { table := "users" }) .delete .sequelize _ rfl own
  exact ⟨misplaced _ .select .sequelize .delete .sqlAlchemy rfl crossed (by decide),
    refused _ .sqlAlchemy fun kind _ => unfilled kind, made.trans (by decide +kernel)⟩

end HandlerTable

end OrmCode
