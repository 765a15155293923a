import OrmCode.Proofs.Sequelize.Reading
import OrmCode.Proofs.SqlAlchemy.Reading

/-!
# Reading chains of calls

The code of a statement is a list of calls under their names.  What each part of the
statement is given by is looked up by the name of its call.
-/

namespace OrmCode

namespace SqlAlchemy

open Javascript (Term)
open Outcome (mapM_map_eq_some mapM_map_eq_some_map)
open Sequelize (entries? entries?_flatMap entry lookup_entry option? option?_map count? countTerm
  count?_countTerm)

/-- The call that a term is, under its name. -/
def called? : Term → Option (String × Term)
  | .list (.call name) arguments => some (name, .list (.call name) arguments)
  | _ => none

def arguments : Term → List Term
  | .list _ items => items
  | _ => []

/-- A call that may be missing from a chain. -/
def method (name : String) (arguments? : Option (List Term)) : List (String × Term) :=
  entry name (arguments?.map (.list (.call name)))

theorem called?_of_mem_method {name : String} {arguments? : Option (List Term)}
    {call : String × Term} (member : call ∈ method name arguments?) : called? call.2 = some call := by
  cases arguments? with
  | none => cases member
  | some arguments =>
      obtain rfl := List.mem_singleton.mp member
      rfl

def recordTerm (model : String) (record : List (String × Literal)) : Term :=
  .list (.call model)
    (record.flatMap fun entry => [.word (entry.1 ++ "="), literalTerm entry.2])

/-- The attribute that the name of an argument stands for. -/
def attributeOfArgument (name : String) : String :=
  String.ofList name.toList.dropLast

def record? : Term → Option (String × List (String × Literal))
  | .list (.call model) items => do
    let values ← (← entries? items).mapM fun (name, term) =>
      (literal? term).map fun value => (attributeOfArgument name, value)
    return (model, values)
  | _ => none

theorem record?_recordTerm {model : String} {record : List (String × Literal)}
    (plain : ∀ entry ∈ record, entry.2.isPlain = true) :
    record? (recordTerm model record) = some (model, record) := by
  have entries := entries?_flatMap (fun entry : String × Literal => .word (entry.1 ++ "="))
    (fun entry => literalTerm entry.2) (fun _ => rfl) record
  have values : (record.map fun entry => (entry.1 ++ "=", literalTerm entry.2)).mapM
      (fun (name, term) =>
        (literal? term).map fun value => (attributeOfArgument name, value)) = some record := by
    apply mapM_map_eq_some
    rintro ⟨name, value⟩ member
    have here := literal?_literalTerm (plain _ member)
    simp [here, attributeOfArgument]
  simp [record?, recordTerm, entries, values]

/-- The insertion of some records, if they all list the same columns of one table. -/
def insertionOf? : List (String × List (String × Literal)) → Option Statement
  | [] => none
  | (table, first) :: others =>
    let columns := first.map Prod.fst
    if others.all fun record => record.1 == table && record.2.map Prod.fst == columns then
      some (.insert ⟨table, columns, first.map Prod.snd :: others.map fun record =>
        record.2.map Prod.snd⟩)
    else none

theorem insertionOf?_zip {inserted : Insertion} (something : inserted.rows ≠ [])
    (fits : ∀ row ∈ inserted.rows, row.length = inserted.columns.length) :
    insertionOf? (inserted.rows.map fun row => (inserted.table, inserted.columns.zip row)) =
      some (.insert inserted) := by
  obtain ⟨table, columns, rows⟩ := inserted
  have names : ∀ row ∈ rows, (columns.zip row).map Prod.fst = columns := fun row member =>
    List.map_fst_zip (Nat.le_of_eq (fits row member).symm)
  have values : ∀ row ∈ rows, (columns.zip row).map Prod.snd = row := fun row member =>
    List.map_snd_zip (Nat.le_of_eq (fits row member))
  cases rows with
  | nil => exact absurd rfl something
  | cons first others =>
      obtain ⟨firstNames, otherNames⟩ := List.forall_mem_cons.mp names
      obtain ⟨firstValues, otherValues⟩ := List.forall_mem_cons.mp values
      have alike : (others.map fun row => (table, columns.zip row)).all fun record =>
          record.1 == table && record.2.map Prod.fst == columns := by
        rw [List.all_map, List.all_eq_true]
        intro row member
        simp [otherNames row member]
      have kept : (others.map fun row => (columns.zip row).map Prod.snd) = others :=
        (List.map_congr_left otherValues).trans (List.map_id' others)
      simp only [List.map_cons, insertionOf?, firstNames, firstValues, List.map_map]
      rw [if_pos alike]
      exact congrArg (fun rows => some (Statement.insert ⟨table, columns, first :: rows⟩)) kept

def insertion? (records : List Term) : Option Statement :=
  (records.mapM record?).bind insertionOf?

theorem insertion?_recordTerms {inserted : Insertion} (something : inserted.rows ≠ [])
    (fits : ∀ row ∈ inserted.rows, row.length = inserted.columns.length)
    (plain : ∀ row ∈ inserted.rows, ∀ value ∈ row, value.isPlain = true) :
    insertion? (inserted.rows.map fun row => recordTerm inserted.table (inserted.columns.zip row)) =
      some (.insert inserted) := by
  have read : (inserted.rows.map fun row =>
      recordTerm inserted.table (inserted.columns.zip row)).mapM record? =
        some (inserted.rows.map fun row => (inserted.table, inserted.columns.zip row)) := by
    apply mapM_map_eq_some_map
    intro row member
    apply record?_recordTerm
    exact fun entry listed => plain row member entry.2 (List.of_mem_zip listed).2
  rw [insertion?, read, Option.bind_some, insertionOf?_zip something fits]

def entityTerms (model : String) (columns : List String) : List Term :=
  if columns.isEmpty then [.word model] else columns.map fun column => .word (path [model, column])

def names? : Term → Option (List String)
  | .word path => some (components path)
  | _ => none

/-- The class that some paths are, or the one whose attributes they are. -/
def entitiesOf? : List (List String) → Option (String × List String)
  | [[model]] => some (model, [])
  | [model, first] :: others =>
    (others.mapM (·[1]?)).map fun columns => (model, first :: columns)
  | _ => none

/-- The class and the attributes that a query is made of. -/
def entities? (terms : List Term) : Option (String × List String) :=
  (terms.mapM names?).bind entitiesOf?

theorem entities?_entityTerms {model : String} {columns : List String}
    (modelName : isName model = true) (columnNames : ∀ column ∈ columns, isName column = true) :
    entities? (entityTerms model columns) = some (model, columns) := by
  cases columns with
  | nil => simp [entityTerms, entities?, names?, entitiesOf?, components_name modelName]
  | cons first others =>
      have read : ((first :: others).map fun column => Term.word (path [model, column])).mapM
          names? = some ((first :: others).map fun column => [model, column]) := by
        apply mapM_map_eq_some_map
        intro column member
        rw [names?, components_attribute modelName (columnNames column member)]
      have seconds : (others.map fun column => [model, column]).mapM (·[1]?) = some others :=
        mapM_map_eq_some fun column _ => rfl
      rw [entityTerms, List.isEmpty_cons, if_neg Bool.false_ne_true, entities?, read,
        Option.bind_some, List.map_cons, entitiesOf?, seconds]
      rfl

def sortKeyTerm (model : String) (key : SortKey) : Term :=
  if key.ascending then .word (path [model, key.column])
  else .list (.call (path [model, key.column, "desc"])) []

def sortKey? : Term → Option SortKey
  | .word path => (column? path).map (⟨·, true⟩)
  | .list (.call path) [] =>
    match components path with
    | [_, column, "desc"] => some ⟨column, false⟩
    | _ => none
  | _ => none

theorem sortKey?_sortKeyTerm {model : String} {key : SortKey} (modelName : isName model = true)
    (columnName : isName key.column = true) : sortKey? (sortKeyTerm model key) = some key := by
  obtain ⟨column, ascending⟩ := key
  cases ascending with
  | true => simp [sortKeyTerm, sortKey?, column?, components_attribute modelName columnName]
  | false =>
      have components := components_method modelName columnName (by decide : isName "desc" = true)
      simp [sortKeyTerm, sortKey?, components]

def sign? : String → Option Change
  | "+" => some .addition
  | "-" => some .subtraction
  | _ => none

def signTerm : Change → Term
  | .addition => .word "+"
  | .subtraction => .word "-"

def valueTerms (model : String) : AssignedValue → List Term
  | .literal value => [literalTerm value]
  | .changed column change amount =>
    [.word (path [model, column]), signTerm change, literalTerm amount]

def assignmentTerms (model : String) (assignment : Assignment) : List Term :=
  .text assignment.column :: valueTerms model assignment.value

/-- The assignments that some terms are made of, one after the other. -/
def assignments? : List Term → Option (List Assignment)
  | [] => some []
  | .text column :: .word path :: .word sign :: amount :: rest => do
    let value := .changed (← column? path) (← sign? sign) (← literal? amount)
    return ⟨column, value⟩ :: (← assignments? rest)
  | .text column :: value :: rest => do
    return ⟨column, .literal (← literal? value)⟩ :: (← assignments? rest)
  | _ => none

def ReadableValue : AssignedValue → Prop
  | .literal value => value.isPlain = true
  | .changed column _ amount => isName column = true ∧ amount.isPlain = true

/-- What an update changes is read back, since a constant is followed by a quoted name. -/
theorem assignments?_flatMap {model : String} (modelName : isName model = true)
    {assignments : List Assignment}
    (readable : ∀ assignment ∈ assignments, ReadableValue assignment.value) :
    assignments? (assignments.flatMap (assignmentTerms model)) = some assignments := by
  induction assignments with
  | nil => rfl
  | cons assignment assignments induction =>
      obtain ⟨here, later⟩ := List.forall_mem_cons.mp readable
      have rest := induction later
      obtain ⟨column, value⟩ := assignment
      rw [List.flatMap_cons]
      cases value with
      | changed changed change amount =>
          obtain ⟨columnName, plain⟩ := here
          have path : column? (path [model, changed]) = some changed := by
            rw [column?, components_attribute modelName columnName]
          have constant := literal?_literalTerm plain
          cases change <;>
            simp [assignmentTerms, valueTerms, signTerm, assignments?, path, sign?, constant, rest]
      | literal value =>
          have constant := literal?_literalTerm here
          have quoted : ∀ sign others, assignments.flatMap (assignmentTerms model) ≠
              .word sign :: others := by
            intro sign others same
            cases assignments with
            | nil => cases same
            | cons next following => cases same
          have terms : assignmentTerms model ⟨column, .literal value⟩ =
              [.text column, literalTerm value] := rfl
          rw [terms, List.cons_append, List.cons_append, List.nil_append, assignments?]
          · simp only [constant, rest, Option.bind_eq_bind, Option.bind_some]
            rfl
          · intro path sign amount others _ same
            exact quoted sign (amount :: others) same

/-- The calls that add the records of an insertion. -/
def insertionCalls (inserted : Insertion) : List (String × Term) :=
  (match inserted.rows.map fun row => recordTerm inserted.table (inserted.columns.zip row) with
    | [only] => method "session.add" (some [only])
    | records => method "session.add_all" (some [.list .array records])) ++
    method "session.commit" (some [])

/-- The calls that follow the query of a selection. -/
def selectionMethods (selected : Selection) : List (String × Term) :=
  method ".filter" (selected.filter?.map (filterTerms selected.table)) ++
    method ".order_by" (if selected.order.isEmpty then none
      else some (selected.order.map (sortKeyTerm selected.table))) ++
    method ".limit" (selected.limit?.map fun count => [countTerm count]) ++
    method ".offset" (selected.offset?.map fun count => [countTerm count]) ++
    method ".all" (some [])

def modificationMethods (updated : Update) : List (String × Term) :=
  method ".filter" (updated.filter?.map (filterTerms updated.table)) ++
    method ".update" (some [.list .object
      (updated.assignments.flatMap (assignmentTerms updated.table))]) ++
    method "session.commit" (some [])

def deletionMethods (deleted : Deletion) : List (String × Term) :=
  method ".filter" (deleted.filter?.map (filterTerms deleted.table)) ++
    method ".delete" (some []) ++ method "session.commit" (some [])

def queryCall (table : String) (columns : List String) : List (String × Term) :=
  method "session.query" (some (entityTerms table columns))

/-- The calls that stand for a statement that defines no table. -/
def calls : Statement → List (String × Term)
  | .insert inserted => insertionCalls inserted
  | .select selected => queryCall selected.table selected.columns ++ selectionMethods selected
  | .update updated => queryCall updated.table [] ++ modificationMethods updated
  | .delete deleted => queryCall deleted.table [] ++ deletionMethods deleted
  | .create _ | .unsupported _ => []

def condition? (call : Term) : Option Filter :=
  (filtersOf? (arguments call)).bind List.head?

def number? (call : Term) : Option Nat :=
  (arguments call).head?.bind count?

def order? (call? : Option Term) : Option (List SortKey) :=
  (call?.elim [] arguments).mapM sortKey?

/-- The statement that the calls after a query ask for. -/
def queried? (table : String) (columns : List String) (calls : List (String × Term)) :
    Option Statement := do
  let filter? ← option? condition? (calls.lookup ".filter")
  let order ← order? (calls.lookup ".order_by")
  let limit? ← option? number? (calls.lookup ".limit")
  let offset? ← option? number? (calls.lookup ".offset")
  match calls.lookup ".all", calls.lookup ".update", calls.lookup ".delete" with
  | some _, _, _ => return .select { table, columns, filter?, order, limit?, offset? }
  | _, some call, _ =>
    return .update ⟨table, ← assignments? ((arguments call).flatMap arguments), filter?⟩
  | _, _, some _ => return .delete ⟨table, filter?⟩
  | _, _, _ => none

def statementOf? : List (String × Term) → Option Statement
  | ("session.add", call) :: _ => insertion? (arguments call)
  | ("session.add_all", call) :: _ => insertion? ((arguments call).flatMap arguments)
  | ("session.query", call) :: calls => do
    let (table, columns) ← entities? (arguments call)
    queried? table columns calls
  | _ => none

theorem lookup_method (name other : String) (arguments? : Option (List Term)) :
    (method name arguments?).lookup other =
      if other = name then arguments?.map (.list (.call name)) else none :=
  lookup_entry name other _

/-- Whether the terms of a filter are read back, if there is one. -/
def ReadableFilter (filter? : Option Filter) : Prop :=
  ∀ filter ∈ filter?, ∀ leaf ∈ filter.leaves, Readable leaf

theorem option?_condition? {model : String} (modelName : isName model = true)
    {filter? : Option Filter} (readable : ReadableFilter filter?) :
    option? condition? ((filter?.map (filterTerms model)).map (.list (.call ".filter"))) =
      some filter? := by
  rw [Option.map_map]
  apply option?_map
  intro filter member
  have read := filtersOf?_filterTerms modelName (readable filter member) []
  rw [List.append_nil, filtersOf?, Option.map_some] at read
  rw [condition?, Function.comp_apply, arguments, read]
  rfl

theorem option?_number? (name : String) (count? : Option Nat) :
    option? number? ((count?.map fun count => [countTerm count]).map (.list (.call name))) =
      some count? := by
  rw [Option.map_map]
  exact option?_map fun count _ => count?_countTerm count

theorem order?_sortKeyTerm {model : String} (modelName : isName model = true)
    {order : List SortKey} (columnNames : ∀ key ∈ order, isName key.column = true) :
    order? ((if order.isEmpty then none
      else some (order.map (sortKeyTerm model))).map (.list (.call ".order_by"))) =
        some order := by
  split
  · next nothing =>
      rw [List.isEmpty_iff.mp nothing]
      rfl
  · exact mapM_map_eq_some fun key member =>
      sortKey?_sortKeyTerm modelName (columnNames key member)

theorem queried?_selectionMethods {selected : Selection} (table : isName selected.table = true)
    (readable : ReadableFilter selected.filter?)
    (order : ∀ key ∈ selected.order, isName key.column = true) :
    queried? selected.table selected.columns (selectionMethods selected) =
      some (.select selected) := by
  have condition := option?_condition? table readable
  have keys := order?_sortKeyTerm table order
  have limit := option?_number? ".limit" selected.limit?
  have offset := option?_number? ".offset" selected.offset?
  simp only [queried?, selectionMethods, List.lookup_append, lookup_method, String.reduceEq,
    if_true, if_false, Option.none_or, Option.or_none, condition, keys, limit, offset]
  rfl

theorem queried?_modificationMethods {updated : Update} (table : isName updated.table = true)
    (readable : ReadableFilter updated.filter?)
    (values : ∀ assignment ∈ updated.assignments, ReadableValue assignment.value)
    (columns : List String) :
    queried? updated.table columns (modificationMethods updated) = some (.update updated) := by
  have condition := option?_condition? table readable
  have changed := assignments?_flatMap table values
  simp only [queried?, modificationMethods, List.lookup_append, lookup_method, String.reduceEq,
    if_true, if_false, Option.none_or, Option.or_none, condition, Option.map_some, arguments,
    List.flatMap_singleton, changed]
  rfl

theorem queried?_deletionMethods {deleted : Deletion} (table : isName deleted.table = true)
    (readable : ReadableFilter deleted.filter?)
    (columns : List String) :
    queried? deleted.table columns (deletionMethods deleted) = some (.delete deleted) := by
  have condition := option?_condition? table readable
  simp only [queried?, deletionMethods, List.lookup_append, lookup_method, String.reduceEq,
    if_true, if_false, Option.none_or, Option.or_none, condition]
  rfl

/-- Whether a statement is read back from its calls: its names are names in paths, its
numbers are numerals, and each row has a value for each column. -/
def Legible : Statement → Prop
  | .insert inserted =>
    inserted.rows ≠ [] ∧ ∀ row ∈ inserted.rows,
      row.length = inserted.columns.length ∧ ∀ value ∈ row, value.isPlain = true
  | .select selected =>
    isName selected.table = true ∧ (∀ column ∈ selected.columns, isName column = true) ∧
      ReadableFilter selected.filter? ∧ ∀ key ∈ selected.order, isName key.column = true
  | .update updated =>
    isName updated.table = true ∧ ReadableFilter updated.filter? ∧
      ∀ assignment ∈ updated.assignments, ReadableValue assignment.value
  | .delete deleted => isName deleted.table = true ∧ ReadableFilter deleted.filter?
  | .create _ | .unsupported _ => False

theorem statementOf?_insertionCalls {inserted : Insertion}
    (legible : Legible (.insert inserted)) :
    statementOf? (insertionCalls inserted) = some (.insert inserted) := by
  obtain ⟨something, rows⟩ := legible
  have read := insertion?_recordTerms something (fun row member => (rows row member).1)
    (fun row member => (rows row member).2)
  rw [insertionCalls]
  generalize (inserted.rows.map fun row => recordTerm _ _) = records at read ⊢
  match records with
  | [] => exact read
  | [only] => exact read
  | first :: second :: others =>
      have listed : [Term.list .array (first :: second :: others)].flatMap arguments =
          first :: second :: others := List.flatMap_singleton _ _
      exact (congrArg insertion? listed).trans read

theorem statementOf?_calls {statement : Statement} (legible : Legible statement) :
    statementOf? (calls statement) = some statement := by
  have query : ∀ {table columns} (methods : List (String × Term)), isName table = true →
      (∀ column ∈ columns, isName column = true) →
      statementOf? (queryCall table columns ++ methods) = queried? table columns methods := by
    intro table columns methods tableName columnNames
    have entities := entities?_entityTerms tableName columnNames
    simp [queryCall, method, entry, statementOf?, arguments, entities]
  cases statement with
  | insert inserted => exact statementOf?_insertionCalls legible
  | select selected =>
      obtain ⟨table, columns, readable, order⟩ := legible
      rw [calls, query _ table columns, queried?_selectionMethods table readable order]
  | update updated =>
      obtain ⟨table, readable, values⟩ := legible
      rw [calls, query _ table (by simp), queried?_modificationMethods table readable values]
  | delete deleted =>
      obtain ⟨table, readable⟩ := legible
      rw [calls, query _ table (by simp), queried?_deletionMethods table readable]
  | create definition => exact legible.elim
  | unsupported name => exact legible.elim

end SqlAlchemy

end OrmCode
