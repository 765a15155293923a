import OrmCode.Proofs.Sequelize.Value

/-!
# Reading calls

A call of a model is a term, and every part of what it says is read back from
the part of the term that is made of it.
-/

namespace OrmCode

namespace Sequelize

open Javascript (Term)
open Outcome (mapM_map_eq_some)

/-- The term of some values unless there are none. -/
def arrayTerm? {Value : Type} (make : Value → Term) (values : List Value) : Option Term :=
  if values.isEmpty then none else some (.list .array (values.map make))

def optionEntries (columns : List String) (filter? : Option Filter) (order : List SortKey)
    (limit? offset? : Option Nat) : List (String × Term) :=
  entry "attributes" (arrayTerm? .text columns) ++ entry "where" (filter?.map filterTerm) ++
    entry "order" (arrayTerm? sortKeyTerm order) ++ entry "limit" (limit?.map countTerm) ++
    entry "offset" (offset?.map countTerm)

def option? {Value : Type} (read : Term → Option Value) : Option Term → Option (Option Value)
  | some term => (read term).map some
  | none => some none

theorem option?_map {Value : Type} {make : Value → Term} {read : Term → Option Value}
    {value? : Option Value} (each : ∀ value ∈ value?, read (make value) = some value) :
    option? read (value?.map make) = some value? := by
  cases value? with
  | none => rfl
  | some value => simp [option?, each]

/-- The values of an array that may be missing. -/
def values? {Value : Type} (read : Term → Option Value) (term? : Option Term) :
    Option (List Value) :=
  (option? (array? read) term?).map fun values => values.getD []

theorem values?_arrayTerm? {Value : Type} {make : Value → Term} {read : Term → Option Value}
    {values : List Value} (each : ∀ value ∈ values, read (make value) = some value) :
    values? read (arrayTerm? make values) = some values := by
  unfold arrayTerm?
  split
  · next nothing =>
      rw [List.isEmpty_iff.mp nothing]
      rfl
  · simp [values?, option?, array?, mapM_map_eq_some each]

/-- The query that some options describe. -/
def selection? (entries : List (String × Term)) : Option Action := do
  let columns ← values? text? (entries.lookup "attributes")
  let filter? ← option? filterOf? (entries.lookup "where")
  let order ← values? sortKey? (entries.lookup "order")
  let limit? ← option? count? (entries.lookup "limit")
  let offset? ← option? count? (entries.lookup "offset")
  return .selection columns filter? order limit? offset?

theorem selection?_optionEntries {columns : List String} {filter? : Option Filter}
    {order : List SortKey} {limit? offset? : Option Nat}
    (plain : ∀ filter ∈ filter?, ∀ value ∈ filter.literals, value.isPlain = true) :
    selection? (optionEntries columns filter? order limit? offset?) =
      some (.selection columns filter? order limit? offset?) := by
  have names : values? text? (arrayTerm? .text columns) = some columns :=
    values?_arrayTerm? fun _ _ => rfl
  have condition : option? filterOf? (filter?.map filterTerm) = some filter? :=
    option?_map fun filter member => filterOf?_filterTerm (plain filter member)
  have keys : values? sortKey? (arrayTerm? sortKeyTerm order) = some order :=
    values?_arrayTerm? fun key _ => sortKey?_sortKeyTerm key
  have most : option? count? (limit?.map countTerm) = some limit? :=
    option?_map fun count _ => count?_countTerm count
  have skipped : option? count? (offset?.map countTerm) = some offset? :=
    option?_map fun count _ => count?_countTerm count
  simp [selection?, optionEntries, List.lookup_append, lookup_entry, names, condition, keys, most,
    skipped]

/-- The terms of the condition of an update or a deletion. -/
def conditionTerms (filter? : Option Filter) : List Term :=
  filter?.toList.map fun filter => objectTerm [("where", filterTerm filter)]

def condition? : List Term → Option (Option Filter)
  | [] => some none
  | [term] =>
    match object? term with
    | some [("where", condition)] => (filterOf? condition).map some
    | _ => none
  | _ => none

theorem condition?_conditionTerms {filter? : Option Filter}
    (plain : ∀ filter ∈ filter?, ∀ value ∈ filter.literals, value.isPlain = true) :
    condition? (conditionTerms filter?) = some filter? := by
  cases filter? with
  | none => rfl
  | some filter =>
      simp [conditionTerms, condition?, object?_objectTerm, filterOf?_filterTerm (plain filter rfl)]

/-- The method that an action calls and the terms that are passed to it. -/
def actionTerms : Action → String × List Term
  | .insertion [row] => ("create", [rowTerm row])
  | .insertion rows => ("bulkCreate", [.list .array (rows.map rowTerm)])
  | .selection columns filter? order limit? offset? =>
    match optionEntries columns filter? order limit? offset? with
    | [] => ("findAll", [])
    | given => ("findAll", [objectTerm given])
  | .modification values filter? => ("update", changesTerm values :: conditionTerms filter?)
  | .deletion filter? => ("destroy", conditionTerms filter?)

def actionOf? : String → List Term → Option Action
  | "create", [row] => (row? row).map fun row => .insertion [row]
  | "bulkCreate", [.list .array rows] => (rows.mapM row?).map .insertion
  | "findAll", [] => selection? []
  | "findAll", [given] => (object? given).bind selection?
  | "update", values :: condition => do
    return .modification (← changes? values) (← condition? condition)
  | "destroy", condition => (condition? condition).map .deletion
  | _, _ => none

theorem plain_of_toList {filter? : Option Filter}
    (plain : ∀ value ∈ filter?.toList.flatMap Filter.literals, Literal.isPlain value = true) :
    ∀ filter ∈ filter?, ∀ value ∈ filter.literals, value.isPlain = true := by
  intro filter member value listed
  exact plain value (List.mem_flatMap_of_mem (Option.mem_toList.mpr member) listed)

/-- An action is read back from its terms. -/
theorem actionOf?_actionTerms {action : Action}
    (plain : ∀ value ∈ action.literals, value.isPlain = true) :
    actionOf? (actionTerms action).1 (actionTerms action).2 = some action := by
  cases action with
  | insertion rows =>
      have each : ∀ row ∈ rows, row? (rowTerm row) = some row := by
        intro row member
        apply row?_rowTerm
        intro entry listed
        apply plain
        exact List.mem_map_of_mem (List.mem_flatten_of_mem member listed)
      have all : (rows.map rowTerm).mapM row? = some rows := mapM_map_eq_some each
      match rows with
      | [] => rfl
      | [row] =>
          have only := each row List.mem_cons_self
          simp [actionTerms, actionOf?, only]
      | first :: second :: others =>
          rw [actionTerms, actionOf?, all]
          · rfl
          · simp
  | selection columns filter? order limit? offset? =>
      have given : selection? (optionEntries columns filter? order limit? offset?) = _ :=
        selection?_optionEntries (plain_of_toList plain)
      rw [actionTerms]
      cases entries : optionEntries columns filter? order limit? offset? with
      | nil =>
          rw [entries] at given
          exact given
      | cons first others =>
          rw [entries] at given
          simp [actionOf?, object?_objectTerm, given]
  | modification values filter? =>
      obtain ⟨plainValues, plainFilter⟩ := List.forall_mem_append.mp plain
      have changed : changes? (changesTerm values) = some values := by
        apply changes?_changesTerm
        intro entry member given listed
        exact plainValues given (List.mem_flatMap.mpr ⟨entry, member, listed⟩)
      have condition := condition?_conditionTerms (plain_of_toList plainFilter)
      simp [actionTerms, actionOf?, changed, condition]
  | deletion filter? =>
      have condition := condition?_conditionTerms (plain_of_toList plain)
      simp [actionTerms, actionOf?, condition]

def methodTerms (model method : String) (arguments : List Term) : List Term :=
  [.word "await", .list (.call (model ++ "." ++ method)) arguments]

def callTerms (call : Call) : List Term :=
  methodTerms call.model (actionTerms call.action).1 (actionTerms call.action).2

def callOf? : List Term → Option Call
  | [.word "await", .list (.call path) arguments] =>
    let model := path.toList.takeWhile (· != '.')
    let method := (path.toList.dropWhile (· != '.')).drop 1
    (actionOf? (String.ofList method) arguments).map fun action =>
      { model := String.ofList model, action }
  | _ => none

/-- A call is read back from its terms. -/
theorem callOf?_callTerms {call : Call} (model : '.' ∉ call.model.toList)
    (plain : ∀ value ∈ call.action.literals, value.isPlain = true) :
    callOf? (callTerms call) = some call := by
  have read := actionOf?_actionTerms plain
  have kept : ∀ character ∈ call.model.toList, (character != '.') = true := by
    intro character member
    rw [bne_iff_ne]
    rintro rfl
    exact model member
  -- The path is split at its first period, and the model has none.
  have path : (call.model ++ "." ++ (actionTerms call.action).1).toList =
      call.model.toList ++ '.' :: (actionTerms call.action).1.toList := by
    simp
  simp [callTerms, methodTerms, callOf?, path, List.takeWhile_append_of_pos kept,
    List.dropWhile_append_of_pos kept, read]

end Sequelize

end OrmCode
