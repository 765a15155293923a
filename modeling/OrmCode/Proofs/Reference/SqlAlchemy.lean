import OrmCode.Code.SqlAlchemy
import OrmCode.Proofs.Reference.Piece
import OrmCode.Proofs.SqlAlchemy.Attribute

/-!
# Names in code for SQLAlchemy

The pieces of the code that reads or changes a table.  A column is an attribute of the model,
a keyword of a new object or a key of changed values.
-/

namespace OrmCode

/-- The columns that a new value is computed from. -/
def AssignedValue.columns : AssignedValue → List String
  | literal _ => []
  | changed column _ _ => [column]

namespace SqlAlchemy

open Piece (plain member memberText)

def callPieces (function : List Piece) (arguments : List (List Piece)) : List Piece :=
  function ++ Piece.enclosed "(" arguments ")"

def attributePieces (column : String) : List Piece :=
  [.model, plain ".", member column]

def comparisonPieces (leaf : Comparison) : List Piece :=
  match operatorForm? leaf.comparator with
  | some (.between token) =>
    attributePieces leaf.column ++ [plain (" " ++ token ++ " " ++ operand leaf.operand)]
  | some (.method name) =>
    callPieces (attributePieces leaf.column ++ [plain ("." ++ name)])
      [[plain (operand leaf.operand)]]
  | none =>
    callPieces
      (callPieces (attributePieces leaf.column ++ [plain ".op"])
        [[plain (Text.quoted leaf.comparator.sql)]])
      [[plain (operand leaf.operand)]]

def filterMarks : Filter.Marks where
  comparison := comparisonPieces
  combine connective operands := callPieces [plain (connectiveFunction connective)] operands
  negate negated := callPieces [plain "not_"] [negated]

def filterCallPieces (given? : Option Filter) : List Piece :=
  given?.toList.flatMap fun filter => callPieces [plain ".filter"] [filterMarks.pieces filter]

def queryPieces (entities : List (List Piece)) : List Piece :=
  callPieces [plain "session.query"] entities

def committedPieces (pieces : List Piece) : List Piece :=
  pieces ++ [plain "\nsession.commit()"]

def recordPieces (columns : List String) (row : List Literal) : List Piece :=
  callPieces [.model] ((columns.zip row).map fun (column, value) =>
    [member column, plain ("=" ++ literal value)])

/-- The addition of objects that are made of pieces. -/
def additionPieces : List (List Piece) → List Piece
  | [only] => committedPieces (callPieces [plain "session.add"] [only])
  | records =>
    committedPieces (plain "session.add_all([\n    " ::
      (Piece.separated ",\n    " records ++ [plain ",\n])"]))

def insertionPieces (inserted : Insertion) : List Piece :=
  additionPieces (inserted.rows.map (recordPieces inserted.columns))

def sortKeyPieces (key : SortKey) : List Piece :=
  attributePieces key.column ++ [plain (if key.ascending then "" else ".desc()")]

def queryTailPieces (selected : Selection) : List Piece :=
  (if selected.order.isEmpty then []
    else callPieces [plain ".order_by"] (selected.order.map sortKeyPieces)) ++
    [plain (selected.limit?.elim "" fun count => call ".limit" [toString count]),
      plain (selected.offset?.elim "" fun count => call ".offset" [toString count]),
      plain ".all()"]

def selectionPieces (selected : Selection) : List Piece :=
  queryPieces (if selected.columns.isEmpty then [[.model]]
      else selected.columns.map attributePieces) ++
    filterCallPieces selected.filter? ++ queryTailPieces selected

def assignedPieces : AssignedValue → List Piece
  | .literal value => [plain (literal value)]
  | .changed column change amount =>
    attributePieces column ++ [plain (changeSign change ++ literal amount)]

def modificationPieces (updated : Update) : List Piece :=
  committedPieces (queryPieces [[.model]] ++ filterCallPieces updated.filter? ++
    callPieces [plain ".update"] [Piece.enclosed "\x7b" (updated.assignments.map fun assignment =>
      memberText assignment.column :: plain ": " :: assignedPieces assignment.value) "\x7d"])

def deletionPieces (deleted : Deletion) : List Piece :=
  committedPieces (queryPieces [[.model]] ++ filterCallPieces deleted.filter? ++
    [plain ".delete()"])

section Code

variable (modelName : String)

theorem code_callPieces (function : List Piece) (arguments : List (List Piece)) :
    Piece.code .sqlAlchemy modelName (callPieces function arguments) =
      call (Piece.code .sqlAlchemy modelName function)
        (arguments.map (Piece.code .sqlAlchemy modelName)) := by
  simp only [callPieces, call, Piece.code_append, Piece.code_enclosed, String.append_assoc]

theorem code_attributePieces (column : String) :
    Piece.code .sqlAlchemy modelName (attributePieces column) =
      attributeOf modelName column := by
  simp only [attributePieces, attributeOf, Piece.code, Piece.written,
    Target.spelledField, Target.fieldName, id_eq, String.append_empty, String.append_assoc]

theorem code_comparisonPieces {context : Context} {leaf : Comparison} {text : String}
    (rendered : comparison context modelName leaf = .ok text) :
    Piece.code .sqlAlchemy modelName (comparisonPieces leaf) = text := by
  unfold comparison at rendered
  unfold comparisonPieces
  cases formed : operatorForm? leaf.comparator with
  | some form =>
      rw [formed] at rendered
      cases form with
      | between token =>
          obtain rfl := Except.ok.inj rendered
          simp only [Piece.code_append, code_attributePieces, Piece.code_singleton, Piece.written,
            String.append_assoc]
      | method name =>
          obtain rfl := Except.ok.inj rendered
          simp only [code_callPieces, Piece.code_append, code_attributePieces,
            Piece.code_singleton, Piece.written, List.map_singleton, String.append_assoc]
  | none =>
      rw [formed] at rendered
      obtain ⟨_, -, same⟩ := Outcome.bind_eq_ok.mp rendered
      obtain rfl := Except.ok.inj same
      simp only [code_callPieces, Piece.code_append, code_attributePieces,
        Piece.code_singleton, Piece.written, List.map_singleton]

theorem columns_callPieces (function : List Piece) (arguments : List (List Piece)) :
    Piece.columns (callPieces function arguments) =
      Piece.columns function ++ arguments.flatMap Piece.columns := by
  rw [callPieces, Piece.columns_append, Piece.columns_enclosed]

theorem columns_comparisonPieces (leaf : Comparison) :
    Piece.columns (comparisonPieces leaf) = [leaf.column] := by
  unfold comparisonPieces
  split <;> simp only [columns_callPieces, Piece.columns_append] <;> rfl

theorem follow_filterMarks (context : Context) :
    filterMarks.Follow .sqlAlchemy modelName (renderer context modelName) where
  comparison := code_comparisonPieces modelName
  combine connective operands := by
    simp only [renderer, filterMarks, code_callPieces, Piece.code_singleton, Piece.written]
  negate negated := by
    simp only [renderer, filterMarks, code_callPieces, Piece.code_singleton, Piece.written,
      List.map_singleton]
  comparisonColumns := columns_comparisonPieces
  combineColumns connective operands := columns_callPieces _ _
  negateColumns negated := by
    simp only [filterMarks, columns_callPieces, List.flatMap_singleton]
    rfl

theorem code_filterCallPieces {context : Context} {given? : Option Filter} {text : String}
    (rendered : filterCall context modelName given? = .ok text) :
    Piece.code .sqlAlchemy modelName (filterCallPieces given?) = text := by
  cases given? with
  | none =>
      obtain rfl := Except.ok.inj rendered
      rfl
  | some filter =>
      obtain ⟨condition, found, rfl⟩ := Outcome.map_eq_ok.mp rendered
      simp only [filterCallPieces, Option.toList_some, List.flatMap_singleton, code_callPieces,
        Piece.code_singleton, Piece.written, List.map_singleton,
        (follow_filterMarks modelName context).render found]

theorem code_committedPieces (pieces : List Piece) :
    Piece.code .sqlAlchemy modelName (committedPieces pieces) =
      committed (Piece.code .sqlAlchemy modelName pieces) := by
  rw [committedPieces, committed, Piece.code_append, Piece.code_singleton, Piece.written]

theorem code_modelPieces : Piece.code .sqlAlchemy modelName [.model] = modelName :=
  Piece.code_singleton _ _ _

theorem code_queryPieces (entities : List (List Piece)) :
    Piece.code .sqlAlchemy modelName (queryPieces entities) =
      query (entities.map (Piece.code .sqlAlchemy modelName)) := by
  rw [queryPieces, query, code_callPieces, Piece.code_singleton, Piece.written]

theorem code_recordPieces (columns : List String) (row : List Literal) :
    Piece.code .sqlAlchemy modelName (recordPieces columns row) =
      record modelName (columns.map Text.pythonIdentifier) row := by
  rw [recordPieces, record, code_callPieces, code_modelPieces, List.zip_map_left, List.map_map,
    List.map_map]
  refine congrArg (call modelName) (List.map_congr_left fun (column, value) _ => ?_)
  simp only [Function.comp_apply, Piece.code, Piece.written, Target.spelledField,
    Target.fieldName, Prod.map_apply, id_eq, String.append_empty, String.append_assoc]

theorem code_additionPieces (records : List (List Piece)) :
    Piece.code .sqlAlchemy modelName (additionPieces records) =
      match records.map (Piece.code .sqlAlchemy modelName) with
      | [only] => committed (call "session.add" [only])
      | records =>
        committed ("session.add_all([\n    " ++ ",\n    ".intercalate records ++ ",\n])") := by
  unfold additionPieces
  split
  · simp only [code_committedPieces, code_callPieces, Piece.code_singleton, Piece.written,
      List.map_singleton]
  · next several =>
      simp only [code_committedPieces, Piece.code, Piece.code_append, Piece.code_separated,
        Piece.written, String.append_empty]
      split
      · next only single =>
          obtain ⟨record, rfl, -⟩ := List.map_eq_singleton_iff.mp single
          exact absurd rfl (several record)
      · simp only [String.append_assoc]

theorem code_insertionPieces {inserted : Insertion} {text : String}
    (generated : insertion inserted = .ok text) :
    Piece.code .sqlAlchemy (Text.pythonIdentifier inserted.table) (insertionPieces inserted) =
      text := by
  obtain ⟨_, -, rest⟩ := Outcome.bind_eq_ok.mp generated
  obtain ⟨names, named, same⟩ := Outcome.bind_eq_ok.mp rest
  obtain rfl := Except.ok.inj same
  obtain rfl := attributeNames_eq_ok named
  have records : inserted.rows.map
        (Piece.code .sqlAlchemy (Text.pythonIdentifier inserted.table) ∘
          recordPieces inserted.columns) =
      inserted.rows.map (record (Text.pythonIdentifier inserted.table)
        (inserted.columns.map Text.pythonIdentifier)) :=
    List.map_congr_left fun row _ => code_recordPieces _ inserted.columns row
  have added := code_additionPieces (Text.pythonIdentifier inserted.table)
    (inserted.rows.map (recordPieces inserted.columns))
  rw [List.map_map, records] at added
  exact added

theorem code_sortKeyPieces (key : SortKey) :
    Piece.code .sqlAlchemy modelName (sortKeyPieces key) =
      sortKey modelName key := by
  rw [sortKeyPieces, sortKey, Piece.code_append, code_attributePieces, Piece.code_singleton,
    Piece.written]

theorem code_selectionPieces {context : Context} {selected : Selection} {text : String}
    (generated : selection context selected = .ok text) :
    Piece.code .sqlAlchemy (Text.pythonIdentifier selected.table) (selectionPieces selected) =
      text := by
  obtain ⟨filter, rendered, same⟩ := Outcome.bind_eq_ok.mp generated
  obtain rfl := Except.ok.inj same
  have filtered := code_filterCallPieces _ rendered
  have tail : Piece.code .sqlAlchemy (Text.pythonIdentifier selected.table)
        (queryTailPieces selected) =
      queryTail (Text.pythonIdentifier selected.table) selected := by
    have order : Piece.code .sqlAlchemy (Text.pythonIdentifier selected.table)
          (if selected.order.isEmpty then []
            else callPieces [plain ".order_by"] (selected.order.map sortKeyPieces)) =
        if selected.order.isEmpty then "" else call ".order_by" (selected.order.map
          (sortKey (Text.pythonIdentifier selected.table))) := by
      split
      · rfl
      · simp only [code_callPieces, Piece.code_singleton, Piece.written, List.map_map,
          Function.comp_def, code_sortKeyPieces]
    simp only [queryTailPieces, queryTail, Piece.code_append, order, Piece.code, Piece.written,
      String.append_empty, String.append_assoc]
  have entities : (if selected.columns.isEmpty then [[Piece.model]]
        else selected.columns.map attributePieces).map
          (Piece.code .sqlAlchemy (Text.pythonIdentifier selected.table)) =
      if selected.columns.isEmpty then [Text.pythonIdentifier selected.table]
        else selected.columns.map (attributeOf (Text.pythonIdentifier selected.table)) := by
    split
    · rw [List.map_singleton, code_modelPieces]
    · rw [List.map_map]
      exact List.map_congr_left fun column _ => code_attributePieces _ column
  rw [selectionPieces, Piece.code_append, Piece.code_append, code_queryPieces, entities, filtered,
    tail]

theorem code_assignedPieces (value : AssignedValue) :
    Piece.code .sqlAlchemy modelName (assignedPieces value) =
      assignedValue modelName value := by
  cases value with
  | literal value => exact Piece.code_singleton _ _ _
  | changed column change amount =>
      rw [assignedPieces, assignedValue, Piece.code_append, code_attributePieces,
        Piece.code_singleton, Piece.written, String.append_assoc]

theorem code_assignments (assignments : List Assignment) :
    (assignments.map fun assignment =>
        memberText assignment.column :: plain ": " :: assignedPieces assignment.value).map
          (Piece.code .sqlAlchemy modelName) =
      (((assignments.map Assignment.column).map Text.pythonIdentifier).zip assignments).map
        fun (name, assignment) =>
          Text.quoted name ++ ": " ++ assignedValue modelName assignment.value := by
  rw [List.map_map, List.map_map, ← List.map_prod_right_eq_zip, List.map_map]
  refine List.map_congr_left fun assignment _ => ?_
  simp only [Function.comp_apply, Piece.code, Piece.written, Target.fieldName,
    code_assignedPieces, String.append_assoc]

theorem code_modificationPieces {context : Context} {updated : Update} {text : String}
    (generated : modification context updated = .ok text) :
    Piece.code .sqlAlchemy (Text.pythonIdentifier updated.table) (modificationPieces updated) =
      text := by
  obtain ⟨_, -, rest⟩ := Outcome.bind_eq_ok.mp generated
  obtain ⟨names, named, rest⟩ := Outcome.bind_eq_ok.mp rest
  obtain ⟨filter, rendered, same⟩ := Outcome.bind_eq_ok.mp rest
  obtain rfl := Except.ok.inj same
  obtain rfl := attributeNames_eq_ok named
  have filtered := code_filterCallPieces _ rendered
  simp only [modificationPieces, code_committedPieces, Piece.code_append, code_queryPieces,
    List.map_singleton, filtered, code_callPieces, Piece.code_singleton, Piece.written,
    Piece.code_enclosed, code_assignments]

theorem code_deletionPieces {context : Context} {deleted : Deletion} {text : String}
    (generated : deletion context deleted = .ok text) :
    Piece.code .sqlAlchemy (Text.pythonIdentifier deleted.table) (deletionPieces deleted) =
      text := by
  obtain ⟨filter, rendered, same⟩ := Outcome.bind_eq_ok.mp generated
  obtain rfl := Except.ok.inj same
  have filtered := code_filterCallPieces _ rendered
  simp only [deletionPieces, code_committedPieces, Piece.code_append, code_queryPieces,
    List.map_singleton, filtered, Piece.code_singleton, Piece.written]

end Code

theorem columns_filterCallPieces (given? : Option Filter) :
    Piece.columns (filterCallPieces given?) = Filter.comparedColumns given? := by
  cases given? with
  | none => rfl
  | some filter =>
      have compared := (follow_filterMarks "" ⟨.sqlAlchemy, {}⟩).columns_pieces filter
      simp only [filterCallPieces, Filter.comparedColumns, Option.toList_some,
        List.flatMap_singleton, columns_callPieces, compared]
      rfl

theorem columns_committedPieces (pieces : List Piece) :
    Piece.columns (committedPieces pieces) = Piece.columns pieces := by
  rw [committedPieces, Piece.columns_append]
  exact List.append_nil _

theorem columns_recordPieces (columns : List String) (row : List Literal) :
    Piece.columns (recordPieces columns row) = (columns.zip row).map Prod.fst := by
  rw [recordPieces, columns_callPieces, List.flatMap_map, List.map_eq_flatMap]
  rfl

theorem columns_additionPieces (records : List (List Piece)) :
    Piece.columns (additionPieces records) = records.flatMap Piece.columns := by
  unfold additionPieces
  split
  · rw [columns_committedPieces, columns_callPieces]
    rfl
  · rw [columns_committedPieces, Piece.columns_cons_plain, Piece.columns_append,
      Piece.columns_separated]
    exact List.append_nil _

theorem mem_additionPieces {records : List (List Piece)} {record : List Piece}
    (listed : record ∈ records) {piece : Piece} (member : piece ∈ record) :
    piece ∈ additionPieces records := by
  unfold additionPieces
  split
  · exact List.mem_append_left _ (List.mem_append_right _ (Piece.mem_enclosed _ _ listed member))
  · exact List.mem_append_left _ (List.mem_cons_of_mem _ (List.mem_append_left _
      (Piece.mem_separated _ listed member)))

theorem columns_insertionPieces (inserted : Insertion) :
    Piece.columns (insertionPieces inserted) =
      inserted.rows.flatMap fun row => (inserted.columns.zip row).map Prod.fst := by
  rw [insertionPieces, columns_additionPieces, List.flatMap_map]
  exact List.flatMap_congr fun row _ => columns_recordPieces inserted.columns row

theorem columns_selectionPieces (selected : Selection) :
    Piece.columns (selectionPieces selected) =
      selected.columns ++ Filter.comparedColumns selected.filter? ++
        selected.order.map SortKey.column := by
  have entities : Piece.columns (queryPieces (if selected.columns.isEmpty then [[.model]]
      else selected.columns.map attributePieces)) = selected.columns := by
    rw [queryPieces, columns_callPieces]
    split
    · next nothing => rw [List.isEmpty_iff.mp nothing]; rfl
    · rw [List.flatMap_map]
      exact List.flatMap_singleton' _
  have tail : Piece.columns (queryTailPieces selected) = selected.order.map SortKey.column := by
    rw [queryTailPieces, Piece.columns_append]
    split
    · next nothing => rw [List.isEmpty_iff.mp nothing]; rfl
    · rw [columns_callPieces, List.flatMap_map, List.map_eq_flatMap]
      exact List.append_nil _
  rw [selectionPieces, Piece.columns_append, Piece.columns_append, entities,
    columns_filterCallPieces, tail]

theorem columns_modificationPieces (updated : Update) :
    Piece.columns (modificationPieces updated) =
      Filter.comparedColumns updated.filter? ++ updated.assignments.flatMap fun assignment =>
        assignment.column :: assignment.value.columns := by
  have values : ∀ value, Piece.columns (assignedPieces value) = value.columns := by
    intro value
    cases value <;> rfl
  have each : ∀ assignment : Assignment,
      Piece.columns
          (memberText assignment.column :: plain ": " :: assignedPieces assignment.value) =
        assignment.column :: assignment.value.columns :=
    fun assignment => congrArg _ (values assignment.value)
  rw [modificationPieces, columns_committedPieces, Piece.columns_append, Piece.columns_append,
    columns_filterCallPieces, columns_callPieces, List.flatMap_singleton, Piece.columns_enclosed,
    List.flatMap_map]
  simp only [each]
  rfl

theorem columns_deletionPieces (deleted : Deletion) :
    Piece.columns (deletionPieces deleted) = Filter.comparedColumns deleted.filter? := by
  rw [deletionPieces, columns_committedPieces, Piece.columns_append, Piece.columns_append,
    columns_filterCallPieces]
  exact List.append_nil _

end SqlAlchemy

end OrmCode
