import OrmCode.Code.Sequelize
import OrmCode.Proofs.Reference.Piece

/-!
# Names in code for Sequelize

The pieces of the code that reads or changes a table.  A column is the key of an entry or a
text in a list; an amount that is added to a column is a piece of SQL.
-/

namespace OrmCode

namespace Sequelize

open Piece (plain member memberText)

def arrayPieces (items : List (List Piece)) : List Piece :=
  Piece.enclosed "[" items "]"

def objectPieces (entries : List (List Piece × List Piece)) : List Piece :=
  if entries.isEmpty then [plain "\x7b\x7d"]
  else Piece.enclosed "\x7b " (entries.map fun (key, value) => key ++ plain ": " :: value) " \x7d"

/-- An object without a reference to a column among its keys. -/
def optionPieces (entries : List (String × List Piece)) : List Piece :=
  objectPieces (entries.map fun (key, value) => ([plain key], value))

def comparisonPieces (leaf : Comparison) : List Piece :=
  match operatorName? leaf.comparator with
  | some name =>
    objectPieces [([member leaf.column],
      [plain (object [(operatorKey name, operand leaf.operand)])])]
  | none =>
    [plain "sequelize.where(sequelize.col(", memberText leaf.column,
      plain ("), " ++ Text.quoted leaf.comparator.sql ++ ", " ++ operand leaf.operand ++ ")")]

def filterMarks : Filter.Marks where
  comparison := comparisonPieces
  combine connective operands :=
    optionPieces [(operatorKey (connectiveName connective), arrayPieces operands)]
  negate negated := optionPieces [(operatorKey "not", negated)]

/-- The entry of a filter, if there is one. -/
def filterPieces? (given? : Option Filter) : List (String × List Piece) :=
  given?.toList.map fun filter => ("where", filterMarks.pieces filter)

def recordPieces (columns : List String) (row : List Literal) : List Piece :=
  objectPieces ((columns.zip row).map fun (column, value) =>
    ([member column], [plain (literal value)]))

/-- The call of a method of the model, which `opening` opens. -/
def methodPieces (opening : String) (arguments : List (List Piece)) : List Piece :=
  plain "await " :: .model :: Piece.enclosed opening arguments ");"

/-- The creation of records that are made of pieces. -/
def creationPieces : List (List Piece) → List Piece
  | [only] => methodPieces ".create(" [only]
  | records =>
    plain "await " :: .model :: plain ".bulkCreate([\n  " ::
      (Piece.separated ",\n  " records ++ [plain "\n]);"])

def insertionPieces (inserted : Insertion) : List Piece :=
  creationPieces (inserted.rows.map (recordPieces inserted.columns))

def sortKeyPieces (key : SortKey) : List Piece :=
  arrayPieces [[memberText key.column], [plain (if key.ascending then "'ASC'" else "'DESC'")]]

def optionsPieces (selected : Selection) : List (String × List Piece) :=
  (if selected.columns.isEmpty then []
    else [("attributes", arrayPieces (selected.columns.map fun column => [memberText column]))]) ++
    filterPieces? selected.filter? ++
    (if selected.order.isEmpty then []
      else [("order", arrayPieces (selected.order.map sortKeyPieces))]) ++
    (selected.limit?.toList.map fun count => ("limit", [plain (toString count)])) ++
    (selected.offset?.toList.map fun count => ("offset", [plain (toString count)]))

def selectionPieces (selected : Selection) : List Piece :=
  match optionsPieces selected with
  | [] => methodPieces ".findAll(" []
  | given => methodPieces ".findAll(" [optionPieces given]

def modificationPieces (updated : Update) : List Piece :=
  let values := objectPieces (updated.assignments.map fun assignment =>
    ([member assignment.column], [plain (assignedValue assignment.value)]))
  methodPieces ".update("
    (values :: (filterPieces? updated.filter?).map fun entry => optionPieces [entry])

def deletionPieces (deleted : Deletion) : List Piece :=
  methodPieces ".destroy(" ((filterPieces? deleted.filter?).map fun entry => optionPieces [entry])

section Code

variable (modelName : String)

theorem code_arrayPieces (items : List (List Piece)) :
    Piece.code .sequelize modelName (arrayPieces items) =
      array (items.map (Piece.code .sequelize modelName)) :=
  Piece.code_enclosed _ _ _ _ _

theorem code_objectPieces (entries : List (List Piece × List Piece)) :
    Piece.code .sequelize modelName (objectPieces entries) =
      object (entries.map fun (key, value) =>
        (Piece.code .sequelize modelName key, Piece.code .sequelize modelName value)) := by
  rw [objectPieces, object, List.isEmpty_map]
  split
  · rfl
  · rw [Piece.code_enclosed, List.map_map, List.map_map]
    congr 3
    refine List.map_congr_left fun (key, value) _ => ?_
    simp only [Function.comp_apply, Piece.code_append, Piece.code, Piece.written,
      String.append_assoc]

theorem code_optionPieces (entries : List (String × List Piece)) :
    Piece.code .sequelize modelName (optionPieces entries) =
      object (entries.map fun (key, value) => (key, Piece.code .sequelize modelName value)) := by
  rw [optionPieces, code_objectPieces, List.map_map]
  congr 1
  refine List.map_congr_left fun (key, value) _ => ?_
  simp only [Function.comp_apply, Piece.code_singleton, Piece.written]

theorem code_methodPieces (opening : String) (arguments : List (List Piece)) :
    Piece.code .sequelize modelName (methodPieces opening arguments) =
      "await " ++ modelName ++ (opening ++
        ", ".intercalate (arguments.map (Piece.code .sequelize modelName)) ++ ");") := by
  simp only [methodPieces, Piece.code, Piece.code_enclosed, Piece.written,
    String.append_assoc]

theorem code_comparisonPieces {context : Context} {leaf : Comparison} {text : String}
    (rendered : comparison context leaf = .ok text) :
    Piece.code .sequelize modelName (comparisonPieces leaf) = text := by
  unfold comparison at rendered
  unfold comparisonPieces
  cases named : operatorName? leaf.comparator with
  | some name =>
      rw [named] at rendered
      obtain rfl := Except.ok.inj rendered
      simp only [code_objectPieces, List.map_singleton, Piece.code_singleton, Piece.written,
        Target.spelledField, Target.fieldName, id_eq]
  | none =>
      rw [named] at rendered
      obtain ⟨_, -, same⟩ := Outcome.bind_eq_ok.mp rendered
      obtain rfl := Except.ok.inj same
      simp only [Piece.code, Piece.written, Target.fieldName, id_eq, String.append_assoc,
        String.append_empty]

theorem columns_arrayPieces (items : List (List Piece)) :
    Piece.columns (arrayPieces items) = items.flatMap Piece.columns :=
  Piece.columns_enclosed _ _ _

theorem columns_objectPieces (entries : List (List Piece × List Piece)) :
    Piece.columns (objectPieces entries) =
      entries.flatMap fun (key, value) => Piece.columns key ++ Piece.columns value := by
  rw [objectPieces]
  split
  · next nothing =>
      rw [List.isEmpty_iff.mp nothing]
      rfl
  · rw [Piece.columns_enclosed, List.flatMap_map]
    exact List.flatMap_congr fun (key, value) _ => Piece.columns_append _ _

theorem columns_optionPieces (entries : List (String × List Piece)) :
    Piece.columns (optionPieces entries) = entries.flatMap fun entry => Piece.columns entry.2 := by
  rw [optionPieces, columns_objectPieces, List.flatMap_map]
  rfl

theorem columns_comparisonPieces (leaf : Comparison) :
    Piece.columns (comparisonPieces leaf) = [leaf.column] := by
  unfold comparisonPieces
  split
  · rw [columns_objectPieces]
    rfl
  · rfl

theorem follow_filterMarks (context : Context) :
    filterMarks.Follow .sequelize modelName (renderer context) where
  comparison := code_comparisonPieces modelName
  combine connective operands := by
    simp only [renderer, filterMarks, code_optionPieces, List.map_singleton, code_arrayPieces]
  negate negated := by
    simp only [renderer, filterMarks, code_optionPieces, List.map_singleton]
  comparisonColumns := columns_comparisonPieces
  combineColumns connective operands := by
    simp only [filterMarks, columns_optionPieces, List.flatMap_singleton, columns_arrayPieces]
  negateColumns negated := by
    simp only [filterMarks, columns_optionPieces, List.flatMap_singleton]

theorem code_filterPieces? {context : Context} {given? : Option Filter} {filter? : Option String}
    (rendered : Sequelize.filter? context given? = .ok filter?) :
    (filterPieces? given?).map (fun (key, value) => (key, Piece.code .sequelize modelName value)) =
      filter?.toList.map fun text => ("where", text) := by
  cases given? with
  | none =>
      obtain rfl := Except.ok.inj rendered
      rfl
  | some filter =>
      obtain ⟨text, found, rfl⟩ := Outcome.map_eq_ok.mp rendered
      simp only [filterPieces?, Option.toList_some, List.map_singleton,
        (follow_filterMarks modelName context).render found]

theorem columns_filterPieces? (given? : Option Filter) :
    (filterPieces? given?).flatMap (fun entry => Piece.columns entry.2) =
      Filter.comparedColumns given? := by
  cases given? with
  | none => rfl
  | some filter =>
      simp only [filterPieces?, Filter.comparedColumns, Option.toList_some, List.map_singleton,
        List.flatMap_singleton, (follow_filterMarks "" ⟨.sequelize, {}⟩).columns_pieces]

theorem code_recordPieces (columns : List String) (row : List Literal) :
    Piece.code .sequelize modelName (recordPieces columns row) = record columns row := by
  rw [recordPieces, code_objectPieces, record, List.map_map]
  congr 1
  refine List.map_congr_left fun (column, value) _ => ?_
  simp only [Function.comp_apply, Piece.code_singleton, Piece.written]
  rfl

theorem columns_recordPieces (columns : List String) (row : List Literal) :
    Piece.columns (recordPieces columns row) = (columns.zip row).map Prod.fst := by
  rw [recordPieces, columns_objectPieces, List.flatMap_map, List.map_eq_flatMap]
  rfl

theorem code_creationPieces (records : List (List Piece)) :
    Piece.code .sequelize modelName (creationPieces records) =
      match records.map (Piece.code .sequelize modelName) with
      | [only] => "await " ++ modelName ++ ".create(" ++ only ++ ");"
      | records =>
        "await " ++ modelName ++ ".bulkCreate([\n  " ++
          ",\n  ".intercalate records ++ "\n]);" := by
  unfold creationPieces
  split
  · simp only [code_methodPieces, List.map_singleton, String.intercalate_singleton,
      String.append_assoc]
  · next several =>
      simp only [Piece.code, Piece.code_append, Piece.code_separated, Piece.written,
        String.append_empty]
      split
      · next only single =>
          obtain ⟨record, rfl, -⟩ := List.map_eq_singleton_iff.mp single
          exact absurd rfl (several record)
      · simp only [String.append_assoc]

theorem columns_methodPieces (opening : String) (arguments : List (List Piece)) :
    Piece.columns (methodPieces opening arguments) = arguments.flatMap Piece.columns :=
  Piece.columns_enclosed opening ");" arguments

theorem columns_creationPieces (records : List (List Piece)) :
    Piece.columns (creationPieces records) = records.flatMap Piece.columns := by
  unfold creationPieces
  split
  · exact columns_methodPieces _ _
  · change Piece.columns (Piece.separated ",\n  " records ++ [plain "\n]);"]) = _
    rw [Piece.columns_append, Piece.columns_separated]
    exact List.append_nil _

theorem code_insertionPieces {inserted : Insertion} {text : String}
    (generated : insertion inserted = .ok text) :
    Piece.code .sequelize (Text.javascriptIdentifier inserted.table) (insertionPieces inserted) =
      text := by
  obtain ⟨_, -, same⟩ := Outcome.bind_eq_ok.mp generated
  obtain rfl := Except.ok.inj same
  have records : inserted.rows.map
        (Piece.code .sequelize (Text.javascriptIdentifier inserted.table) ∘
          recordPieces inserted.columns) =
      inserted.rows.map (record inserted.columns) :=
    List.map_congr_left fun row _ => code_recordPieces _ inserted.columns row
  have created := code_creationPieces (Text.javascriptIdentifier inserted.table)
    (inserted.rows.map (recordPieces inserted.columns))
  rw [List.map_map, records] at created
  exact created

theorem code_sortKeyPieces (key : SortKey) :
    Piece.code .sequelize modelName (sortKeyPieces key) = sortKey key := by
  simp only [sortKeyPieces, code_arrayPieces, List.map_cons, List.map_nil, Piece.code_singleton]
  rfl

theorem code_selectionPieces {context : Context} {selected : Selection} {text : String}
    (generated : selection context selected = .ok text) :
    Piece.code .sequelize (Text.javascriptIdentifier selected.table) (selectionPieces selected) =
      text := by
  obtain ⟨filter?, rendered, same⟩ := Outcome.bind_eq_ok.mp generated
  obtain rfl := Except.ok.inj same
  have filtered := code_filterPieces? (Text.javascriptIdentifier selected.table) rendered
  have given : (optionsPieces selected).map (fun (key, value) =>
      (key, Piece.code .sequelize (Text.javascriptIdentifier selected.table) value)) =
        options selected filter? := by
    simp only [optionsPieces, options, List.map_append, filtered, apply_ite (List.map _),
      List.map_nil, List.map_singleton, List.map_map, Function.comp_def, code_arrayPieces,
      code_sortKeyPieces, Piece.code_singleton, Piece.written, Target.fieldName, id_eq]
  rw [← given, selectionPieces]
  cases optionsPieces selected with
  | nil =>
      have opening : ".findAll(" ++ ", ".intercalate [] ++ ");" = ".findAll();" := by decide
      rw [code_methodPieces, List.map_nil, opening]
      rfl
  | cons first others =>
      rw [code_methodPieces, List.map_singleton, code_optionPieces, String.intercalate_singleton,
        ← String.append_assoc, ← String.append_assoc]
      rfl

/-- The call of a method on values and the records that pass a filter. -/
theorem code_filteredPieces {context : Context} {given? : Option Filter} {filter? : Option String}
    (rendered : Sequelize.filter? context given? = .ok filter?) :
    ((filterPieces? given?).map fun entry => optionPieces [entry]).map
        (Piece.code .sequelize modelName) =
      filter?.toList.map fun text => object [("where", text)] := by
  have filtered := code_filterPieces? modelName rendered
  have each : ((filterPieces? given?).map fun entry => optionPieces [entry]).map
        (Piece.code .sequelize modelName) =
      ((filterPieces? given?).map fun (key, value) =>
        (key, Piece.code .sequelize modelName value)).map fun entry => object [entry] := by
    rw [List.map_map, List.map_map]
    exact List.map_congr_left fun entry _ => code_optionPieces modelName [entry]
  rw [each, filtered, List.map_map]
  rfl

theorem code_modificationPieces {context : Context} {updated : Update} {text : String}
    (generated : modification context updated = .ok text) :
    Piece.code .sequelize (Text.javascriptIdentifier updated.table) (modificationPieces updated) =
      text := by
  obtain ⟨_, -, rest⟩ := Outcome.bind_eq_ok.mp generated
  obtain ⟨filter?, rendered, same⟩ := Outcome.bind_eq_ok.mp rest
  obtain rfl := Except.ok.inj same
  have filtered := code_filteredPieces (Text.javascriptIdentifier updated.table) rendered
  have values : Piece.code .sequelize (Text.javascriptIdentifier updated.table)
        (objectPieces (updated.assignments.map fun assignment =>
          ([member assignment.column], [plain (assignedValue assignment.value)]))) =
      object (updated.assignments.map fun assignment =>
        (Text.javascriptKey assignment.column, assignedValue assignment.value)) := by
    simp only [code_objectPieces, List.map_map, Function.comp_def, Piece.code_singleton,
      Piece.written, Target.spelledField, Target.fieldName, id_eq]
  rw [modificationPieces, code_methodPieces, List.map_cons, values, filtered]
  cases filter? with
  | none =>
      simp only [Option.toList_none, List.map_nil, String.intercalate_singleton,
        String.append_assoc]
  | some filter =>
      simp only [Option.toList_some, List.map_singleton, String.intercalate_cons_cons,
        String.intercalate_singleton, String.append_assoc]

theorem code_deletionPieces {context : Context} {deleted : Deletion} {text : String}
    (generated : deletion context deleted = .ok text) :
    Piece.code .sequelize (Text.javascriptIdentifier deleted.table) (deletionPieces deleted) =
      text := by
  obtain ⟨filter?, rendered, same⟩ := Outcome.bind_eq_ok.mp generated
  obtain rfl := Except.ok.inj same
  have filtered := code_filteredPieces (Text.javascriptIdentifier deleted.table) rendered
  rw [deletionPieces, code_methodPieces, filtered]
  cases filter? with
  | none =>
      have opening : ".destroy(" ++ ", ".intercalate [] ++ ");" = ".destroy();" := by decide
      rw [Option.toList_none, List.map_nil, opening]
  | some filter =>
      simp only [Option.toList_some, List.map_singleton, String.intercalate_singleton,
        String.append_assoc]

end Code

theorem columns_sortKeyPieces (key : SortKey) :
    Piece.columns (sortKeyPieces key) = [key.column] := by
  rw [sortKeyPieces, columns_arrayPieces]
  rfl

theorem columns_insertionPieces (inserted : Insertion) :
    Piece.columns (insertionPieces inserted) =
      inserted.rows.flatMap fun row => (inserted.columns.zip row).map Prod.fst := by
  rw [insertionPieces, columns_creationPieces, List.flatMap_map]
  exact List.flatMap_congr fun row _ => columns_recordPieces inserted.columns row

/-- An option that is left out for an empty list. -/
theorem columns_listOption {Item : Type} (name : String) (items : List Item)
    (pieces : Item → List Piece) :
    (if items.isEmpty then [] else [(name, arrayPieces (items.map pieces))]).flatMap
        (fun entry => Piece.columns entry.2) =
      items.flatMap fun item => Piece.columns (pieces item) := by
  split
  · next nothing =>
      rw [List.isEmpty_iff.mp nothing]
      rfl
  · rw [List.flatMap_singleton, columns_arrayPieces, List.flatMap_map]

theorem columns_countOption (name : String) (count? : Option Nat) :
    (count?.toList.map fun count => (name, [plain (toString count)])).flatMap
      (fun entry => Piece.columns entry.2) = [] := by
  cases count? <;> rfl

theorem columns_selectionPieces (selected : Selection) :
    Piece.columns (selectionPieces selected) =
      selected.columns ++ Filter.comparedColumns selected.filter? ++
        selected.order.map SortKey.column := by
  have options : (optionsPieces selected).flatMap (fun entry => Piece.columns entry.2) =
      selected.columns ++ Filter.comparedColumns selected.filter? ++
        selected.order.map SortKey.column := by
    simp only [optionsPieces, List.flatMap_append, columns_filterPieces?, columns_listOption,
      columns_countOption, columns_sortKeyPieces, List.append_nil]
    rw [List.map_eq_flatMap]
    congr
    exact List.flatMap_singleton' _
  rw [selectionPieces, ← options]
  cases optionsPieces selected with
  | nil => rw [columns_methodPieces]; rfl
  | cons first others => rw [columns_methodPieces, List.flatMap_singleton, columns_optionPieces]

theorem columns_filteredPieces (given? : Option Filter) :
    ((filterPieces? given?).map fun entry => optionPieces [entry]).flatMap Piece.columns =
      Filter.comparedColumns given? := by
  simp only [List.flatMap_map, columns_optionPieces, List.flatMap_singleton, columns_filterPieces?]

theorem columns_modificationPieces (updated : Update) :
    Piece.columns (modificationPieces updated) =
      updated.assignments.map Assignment.column ++ Filter.comparedColumns updated.filter? := by
  rw [modificationPieces, columns_methodPieces, List.flatMap_cons, columns_filteredPieces,
    columns_objectPieces, List.flatMap_map, List.map_eq_flatMap]
  rfl

theorem columns_deletionPieces (deleted : Deletion) :
    Piece.columns (deletionPieces deleted) = Filter.comparedColumns deleted.filter? := by
  rw [deletionPieces, columns_methodPieces, columns_filteredPieces]

end Sequelize

end OrmCode
