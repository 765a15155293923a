import OrmCode.Code.HandlerTable
import OrmCode.Proofs.Javascript.Word
import OrmCode.Proofs.Sequelize.Reading

/-!
# Code spells calls

Every piece of generated code spells the term of what it stands for, and the code
of a whole statement the terms of its call.
-/

namespace OrmCode

namespace Sequelize

open Javascript

theorem spells_literal {value : Literal} (plain : value.isPlain = true) :
    Spells (literal value) [literalTerm value] := by
  cases value with
  | string value => exact Spells.quoted value
  | number numeral => exact Spells.word (isWord_of_isNumeral plain)
  | boolean value =>
      cases value with
      | true => exact Spells.word (by decide : isWord "true" = true)
      | false => exact Spells.word (by decide : isWord "false" = true)
  | null => exact Spells.word (by decide : isWord "null" = true)

theorem flatten_singletons {Value : Type} (values : List Value) :
    (values.map fun value => [value]).flatten = values := by
  rw [← List.flatMap_def]
  exact List.flatMap_singleton' values

theorem spells_items {texts : List String} {terms : List Term} {separator : String}
    (separates : Separates separator)
    (each : List.Forall₂ (fun text term => Spells text [term]) texts terms) :
    Spells (separator.intercalate texts) terms := by
  have spelled := Spells.intercalate separates
    (List.forall₂_map_right_iff.mpr each : List.Forall₂ Spells texts (terms.map fun term => [term]))
  rwa [flatten_singletons] at spelled

theorem spells_array {texts : List String} {terms : List Term}
    (each : List.Forall₂ (fun text term => Spells text [term]) texts terms) :
    Spells (array texts) [.list .array terms] :=
  Spells.enclosed opens_array closes_array (spells_items separates_comma each)

/-- Entries of an object that spell their keys and values. -/
def SpellsEntry (written : String × String) (entry : Term × Term) : Prop :=
  Spells written.1 [entry.1] ∧ Spells written.2 [entry.2]

theorem spells_object {written : List (String × String)} {entries : List (Term × Term)}
    (each : List.Forall₂ SpellsEntry written entries) :
    Spells (object written) [.list .object (entries.flatMap fun entry => [entry.1, entry.2])] := by
  cases each with
  | nil =>
      intro next rest _
      rw [List.flatMap_nil, List.flatMap_singleton, Term.tokens]
      rfl
  | @cons first entry written entries here later =>
      have spelled : List.Forall₂ Spells
          ((first :: written).map fun written => written.1 ++ ": " ++ written.2)
          ((entry :: entries).map fun entry => [entry.1, entry.2]) := by
        rw [List.forall₂_map_left_iff, List.forall₂_map_right_iff]
        refine (List.Forall₂.cons here later).imp ?_
        intro written entry spelled
        exact Spells.append separates_colon spelled.1 spelled.2
      rw [List.flatMap_def]
      exact Spells.enclosed opens_object closes_object (Spells.intercalate separates_comma spelled)

theorem spells_singleton {key value : String} {keyTerm valueTerm : Term}
    (spelledKey : Spells key [keyTerm]) (spelledValue : Spells value [valueTerm]) :
    Spells (object [(key, value)]) [.list .object [keyTerm, valueTerm]] := by
  have entry : SpellsEntry (key, value) (keyTerm, valueTerm) := ⟨spelledKey, spelledValue⟩
  exact spells_object (.cons entry .nil)

theorem spells_key (name : String) : Spells (Text.javascriptKey name) [keyTerm name] := by
  unfold Text.javascriptKey keyTerm
  split
  · next bare => exact Spells.word (isWord_of_isIdentifier bare)
  · exact Spells.quoted name

theorem spells_bareKey {name : String} (bare : Text.isIdentifier name = true) :
    Spells name [keyTerm name] := by
  have key := spells_key name
  rwa [Text.javascriptKey, if_pos bare] at key

/-- An operator as the key of an object spells its name between brackets. -/
theorem spells_operatorKey {name : String} (word : isWord name = true) :
    Spells (operatorKey name) [operatorTerm name] := by
  have same : operatorKey name = "[" ++ ("Op." ++ name) ++ "]" := by
    have opening : "[Op." = "[" ++ "Op." := rfl
    rw [operatorKey, opening, @String.append_assoc "["]
  have named : Spells ("Op." ++ name) [.word ("Op." ++ name)] :=
    Spells.word (isWord_append (by decide) word)
  rw [same]
  exact Spells.enclosed opens_array closes_array named

theorem isWord_of_operatorName? {comparator : Comparator} {name : String}
    (named : operatorName? comparator = some name) : isWord name = true := by
  cases comparator <;> cases named <;> decide

theorem isWord_connectiveName (connective : Connective) :
    isWord (connectiveName connective) = true := by
  cases connective <;> decide

theorem spells_operand {operand : Operand}
    (plain : ∀ value ∈ operand.literals, value.isPlain = true) :
    Spells (Sequelize.operand operand) [operandTerm operand] := by
  cases operand with
  | single value => exact spells_literal (plain value List.mem_cons_self)
  | list values =>
      exact spells_array (Outcome.forall₂_maps fun value member =>
        spells_literal (plain value member))

/-- A call of a function spells its name and what its arguments spell. -/
theorem spells_called {function arguments : String} {terms : List Term}
    (word : isWord function = true) (spelled : Spells arguments terms) :
    Spells (function ++ "(" ++ arguments ++ ")") [.list (.call function) terms] :=
  Spells.enclosed (opens_call word) (closes_call function) spelled

theorem spells_comparison {context : Context} {leaf : Comparison} {rendered : String}
    (plain : ∀ value ∈ leaf.operand.literals, value.isPlain = true)
    (passed : comparison context leaf = .ok rendered) :
    Spells rendered [comparisonTerm leaf] := by
  have compared := spells_operand plain
  rw [comparison] at passed
  rw [comparisonTerm]
  -- An operator without a name of its own is quoted within a call, where its text may
  -- hold any sign.
  cases named : operatorName? leaf.comparator with
  | some name =>
      rw [named] at passed
      obtain rfl := Except.ok.inj passed
      have operator := spells_operatorKey (isWord_of_operatorName? named)
      exact spells_singleton (spells_key leaf.column) (spells_singleton operator compared)
  | none =>
      rw [named] at passed
      obtain ⟨_, -, same⟩ := Outcome.bind_eq_ok.mp passed
      obtain rfl := Except.ok.inj same
      have column := spells_called (by decide : isWord "sequelize.col" = true)
        (Spells.quoted leaf.column)
      have arguments := (column.append separates_comma (Spells.quoted leaf.comparator.sql)).append
        separates_comma compared
      have opening : "sequelize.where(sequelize.col(" =
          "sequelize.where" ++ ("(" ++ ("sequelize.col" ++ "(")) := rfl
      have middle : "), " = ")" ++ ", " := rfl
      have spelled := spells_called (by decide : isWord "sequelize.where" = true) arguments
      simp only [String.append_assoc] at spelled
      simp only [opening, middle, String.append_assoc]
      exact spelled

theorem spells_groupOf {context : Context} (connective : Connective) {texts : List String}
    {operands : List Filter}
    (each : List.Forall₂ (fun text operand => Spells text [filterTerm operand]) texts operands) :
    Spells ((renderer context).group connective texts)
      [filterTerm (Filter.groupOf connective operands)] := by
  have several : Spells ((renderer context).combine connective texts)
      [filterTerm (.group connective operands)] := by
    rw [filterTerm]
    apply spells_singleton (spells_operatorKey (isWord_connectiveName connective))
    apply spells_array
    rw [List.forall₂_map_right_iff]
    exact each
  cases each with
  | nil => exact several
  | cons only others =>
      cases others with
      | nil => exact only
      | cons next others => exact several

/-- A rendered filter spells the filter with every group of one operand replaced
by that operand. -/
theorem spells_render {context : Context} {filter : Filter} {rendered : String}
    (plain : ∀ value ∈ filter.literals, value.isPlain = true)
    (passed : filter.render (renderer context) = .ok rendered) :
    Spells rendered [filterTerm filter.collapsed] := by
  -- The renderer drops the group around a single operand, as `collapsed` does, so both
  -- go through the operands in step.
  induction filter generalizing rendered with
  | comparison leaf =>
      rw [Filter.literals_comparison] at plain
      rw [Filter.collapsed, filterTerm]
      exact spells_comparison plain passed
  | group connective operands induction =>
      rw [Filter.literals_group] at plain
      rw [Filter.render, Filter.renderAll_eq_mapM] at passed
      obtain ⟨texts, rendered, rfl⟩ := Outcome.map_eq_ok.mp passed
      rw [Filter.collapsed]
      apply spells_groupOf
      rw [List.forall₂_map_right_iff]
      apply List.Forall₂.flip
      apply Outcome.forall₂_of_mapM rendered
      intro operand member text found
      exact induction operand member
        (fun value listed => plain value (List.mem_flatMap_of_mem member listed)) found
  | negation operand induction =>
      rw [Filter.literals_negation] at plain
      obtain ⟨text, found, rfl⟩ := Outcome.map_eq_ok.mp passed
      rw [Filter.collapsed, filterTerm]
      exact spells_singleton (spells_operatorKey (by decide)) (induction plain found)

theorem spells_filter? {context : Context} {given? : Option Filter} {rendered? : Option String}
    (plain : ∀ value ∈ given?.toList.flatMap Filter.literals, value.isPlain = true)
    (passed : filter? context given? = .ok rendered?) :
    Option.Rel (fun text filter => Spells text [filterTerm filter]) rendered?
      (given?.map Filter.collapsed) := by
  cases given? with
  | none =>
      obtain rfl := Except.ok.inj passed
      exact .none
  | some filter =>
      obtain ⟨text, found, rfl⟩ := Outcome.map_eq_ok.mp passed
      exact .some (spells_render (plain_of_toList plain filter rfl) found)

/-- An entry of an object that spells its name and its value. -/
def SpellsNamed (written : String × String) (named : String × Term) : Prop :=
  Spells written.1 [keyTerm named.1] ∧ Spells written.2 [named.2]

theorem spells_objectTerm {written : List (String × String)} {named : List (String × Term)}
    (each : List.Forall₂ SpellsNamed written named) :
    Spells (object written) [objectTerm named] := by
  have spelled : List.Forall₂ SpellsEntry written
      (named.map fun entry => (keyTerm entry.1, entry.2)) :=
    List.forall₂_map_right_iff.mpr each
  have found := spells_object spelled
  rwa [List.flatMap_map] at found

theorem spells_entries {Value : Type} {write : Value → String} {make : Value → Term}
    {entries : List (String × Value)}
    (each : ∀ entry ∈ entries, Spells (write entry.2) [make entry.2]) :
    Spells (object (entries.map fun (name, value) => (Text.javascriptKey name, write value)))
      [objectTerm (entries.map fun (name, value) => (name, make value))] :=
  spells_objectTerm (Outcome.forall₂_maps fun entry member =>
    ⟨spells_key entry.1, each entry member⟩)

theorem spells_record {columns : List String} {row : List Literal}
    (plain : ∀ value ∈ row, value.isPlain = true) :
    Spells (record columns row) [rowTerm (columns.zip row)] :=
  spells_entries fun entry member =>
    spells_literal (plain entry.2 (List.of_mem_zip member).2)

theorem spells_sqlText (sql : String) :
    Spells (sqlText sql) [.list (.call "sequelize.literal") [.text sql]] := by
  have opening : "sequelize.literal(" = "sequelize.literal" ++ "(" := by decide
  have same : sqlText sql = "sequelize.literal" ++ "(" ++ Text.quoted sql ++ ")" :=
    congrArg (· ++ Text.quoted sql ++ ")") opening
  rw [same]
  exact spells_called (by decide) (Spells.quoted sql)

theorem spells_givenValue {value : AssignedValue}
    (plain : ∀ given ∈ (givenValue value).literals, given.isPlain = true) :
    Spells (assignedValue value) [valueTerm (givenValue value)] := by
  cases value with
  | literal given => exact spells_literal (plain given List.mem_cons_self)
  | changed column change amount =>
      rw [assignedValue, givenValue_changed, valueTerm]
      exact spells_sqlText _

theorem spells_sortKey (key : SortKey) : Spells (sortKey key) [sortKeyTerm key] := by
  obtain ⟨column, ascending⟩ := key
  have direction : Spells (if ascending then "'ASC'" else "'DESC'")
      [.text (if ascending then "ASC" else "DESC")] := by
    cases ascending with
    | true => exact Spells.quoted "ASC"
    | false => exact Spells.quoted "DESC"
  exact spells_array (.cons (Spells.quoted column) (.cons direction .nil))

theorem spells_count (count : Nat) : Spells (toString count) [countTerm count] :=
  Spells.word (isWord_toString count)

theorem spells_option {name : String} (bare : Text.isIdentifier name = true)
    {Value : Type} {text? : Option String} {value? : Option Value} {make : Value → Term}
    (each : Option.Rel (fun text value => Spells text [make value]) text? value?) :
    List.Forall₂ SpellsNamed (text?.toList.map fun text => (name, text))
      (entry name (value?.map make)) := by
  have key := spells_bareKey bare
  cases each with
  | none => exact .nil
  | some spelled => exact .cons ⟨key, spelled⟩ .nil

theorem spells_arrayOption {name : String} (bare : Text.isIdentifier name = true)
    {Value : Type} {write : Value → String} {make : Value → Term}
    (each : ∀ value, Spells (write value) [make value]) (values : List Value) :
    List.Forall₂ SpellsNamed
      (if values.isEmpty then [] else [(name, array (values.map write))])
      (entry name (arrayTerm? make values)) := by
  have key := spells_bareKey bare
  unfold arrayTerm?
  split
  · exact .nil
  · exact .cons ⟨key, spells_array (Outcome.forall₂_maps fun value _ => each value)⟩ .nil

theorem spells_options {selected : Selection} {rendered? : Option String}
    {filter? : Option Filter}
    (filtered : Option.Rel (fun text filter => Spells text [filterTerm filter]) rendered? filter?) :
    List.Forall₂ SpellsNamed (options selected rendered?)
      (optionEntries selected.columns filter? selected.order selected.limit?
        selected.offset?) := by
  have counted : ∀ count? : Option Nat,
      Option.Rel (fun text count => Spells text [countTerm count]) (count?.map toString)
        count? := by
    intro count?
    cases count? with
    | none => exact .none
    | some count => exact .some (spells_count count)
  have columns := spells_arrayOption (by decide : Text.isIdentifier "attributes" = true)
    Spells.quoted selected.columns
  have condition := spells_option (by decide : Text.isIdentifier "where" = true) filtered
  have order := spells_arrayOption (by decide : Text.isIdentifier "order" = true)
    spells_sortKey selected.order
  have most := spells_option (by decide : Text.isIdentifier "limit" = true)
    (counted selected.limit?)
  have skipped := spells_option (by decide : Text.isIdentifier "offset" = true)
    (counted selected.offset?)
  rw [Option.toList_map, List.map_map] at most skipped
  exact List.rel_append (List.rel_append (List.rel_append (List.rel_append columns condition) order)
    most) skipped

/-- The code of a call has the terms of its name and of its arguments. -/
theorem terms?_of_call {opening method arguments : String} {terms : List Term} (table : String)
    (opens : opening = "." ++ method ++ "(")
    (word : isWord method = true)
    (spelled : Spells arguments terms) :
    terms? ("await " ++ Text.javascriptIdentifier table ++ opening ++ arguments ++ ");") =
      some (methodTerms (Text.javascriptIdentifier table) method terms) := by
  have path : isWord (Text.javascriptIdentifier table ++ "." ++ method) = true := by
    refine isWord_append ?_ word
    rw [String.toList_append, List.all_append, Bool.and_eq_true, List.all_eq_true]
    refine ⟨fun character member => ?_, by decide⟩
    have continues := Text.continues_identifierAvoiding Text.javascriptReserved table
    rw [continuesWord, continues character member, Bool.true_or]
  have await : Spells "await" [.word "await"] := Spells.word (by decide)
  have found := terms?_of_spells separates_semicolon
    (await.append separates_blank (spells_called path spelled))
  have leading : "await " = "await" ++ " " := rfl
  have closing : ");" = ")" ++ ";" := rfl
  simp only [String.append_assoc] at found
  simp only [methodTerms, opens, leading, closing, String.append_assoc]
  exact found

theorem terms?_of_bareCall {ending method : String} (table : String)
    (ends : ending = "." ++ method ++ "(" ++ ");") (word : isWord method = true) :
    terms? ("await " ++ Text.javascriptIdentifier table ++ ending) =
      some (methodTerms (Text.javascriptIdentifier table) method []) := by
  have found := terms?_of_call table rfl word Spells.nothing
  simp only [String.append_empty, String.append_assoc] at found
  simp only [ends, String.append_assoc]
  exact found

/-- The creation of several records at once spells their rows. -/
theorem terms?_of_bulkCreate (table : String) {texts : List String}
    {rows : List (List (String × Literal))}
    (each : List.Forall₂ (fun text row => Spells text [rowTerm row]) texts rows) :
    terms? ("await " ++ Text.javascriptIdentifier table ++ ".bulkCreate([\n  " ++
      ",\n  ".intercalate texts ++ "\n]);") =
      some (methodTerms (Text.javascriptIdentifier table) "bulkCreate"
        [.list .array (rows.map rowTerm)]) := by
  have rowsSpelled := spells_items separates_commaBreak (List.forall₂_map_right_iff.mpr each :
    List.Forall₂ (fun text term => Spells text [term]) texts (rows.map rowTerm))
  have found := terms?_of_call table (by decide : ".bulkCreate(" = "." ++ "bulkCreate" ++ "(")
    (by decide) (Spells.enclosed opens_arrayLines closes_arrayLines rowsSpelled)
  have opening : ".bulkCreate([\n  " = ".bulkCreate(" ++ "[\n  " := by decide
  have closing : "\n]);" = "\n]" ++ ");" := by decide
  simp only [String.append_assoc] at found
  simp only [opening, closing, String.append_assoc]
  exact found

theorem terms?_of_insertion {inserted : Insertion} {code : String}
    (plain : ∀ row ∈ inserted.rows, ∀ value ∈ row, value.isPlain = true)
    (generated : insertion inserted = .ok code) :
    terms? code =
      some (callTerms ⟨Text.javascriptIdentifier inserted.table,
        .insertion (records inserted)⟩) := by
  obtain ⟨_, -, same⟩ := Outcome.bind_eq_ok.mp generated
  obtain rfl := Except.ok.inj same
  have each : List.Forall₂ (fun text row => Spells text [rowTerm row])
      (inserted.rows.map (record inserted.columns)) (records inserted) := by
    rw [records]
    exact Outcome.forall₂_maps fun row member => spells_record (plain row member)
  have opens : ".create(" = "." ++ "create" ++ "(" := by decide
  have word : isWord "create" = true := by decide
  have several := terms?_of_bulkCreate inserted.table each
  generalize inserted.rows.map (record inserted.columns) = texts at each several ⊢
  generalize records inserted = rows at each several ⊢
  cases each with
  | nil => exact several
  | cons only later =>
      cases later with
      | nil => exact terms?_of_call inserted.table opens word only
      | cons next others => exact several

theorem terms?_of_selection {context : Context} {selected : Selection} {code : String}
    (plain : ∀ value ∈ selected.filter?.toList.flatMap Filter.literals, value.isPlain = true)
    (generated : selection context selected = .ok code) :
    terms? code =
      some (callTerms ⟨Text.javascriptIdentifier selected.table,
        .selection selected.columns (selected.filter?.map Filter.collapsed) selected.order
          selected.limit? selected.offset?⟩) := by
  obtain ⟨rendered?, filtered, same⟩ := Outcome.bind_eq_ok.mp generated
  obtain rfl := Except.ok.inj same
  have each := @spells_options selected _ _ (spells_filter? plain filtered)
  have opens : ".findAll(" = "." ++ "findAll" ++ "(" := by decide
  have ends : ".findAll();" = "." ++ "findAll" ++ "(" ++ ");" := by decide
  have word : isWord "findAll" = true := by decide
  dsimp only [callTerms, actionTerms]
  generalize options selected rendered? = written at each ⊢
  generalize optionEntries _ _ _ _ _ = named at each ⊢
  have spelled := spells_objectTerm each
  cases each with
  | nil => exact terms?_of_bareCall selected.table ends word
  | cons first others => exact terms?_of_call selected.table opens word spelled

theorem spells_condition {text : String} {filter : Filter}
    (spelled : Spells text [filterTerm filter]) :
    Spells (object [("where", text)]) [objectTerm [("where", filterTerm filter)]] := by
  have key : Spells "where" [keyTerm "where"] := Spells.word (by decide : isWord "where" = true)
  have entry : SpellsNamed ("where", text) ("where", filterTerm filter) := ⟨key, spelled⟩
  exact spells_objectTerm (.cons entry .nil)

theorem terms?_of_modification {context : Context} {updated : Update} {code : String}
    (plainValues : ∀ entry ∈ changes updated, ∀ given ∈ entry.2.literals,
      given.isPlain = true)
    (plain : ∀ value ∈ updated.filter?.toList.flatMap Filter.literals, value.isPlain = true)
    (generated : modification context updated = .ok code) :
    terms? code =
      some (callTerms ⟨Text.javascriptIdentifier updated.table,
        .modification (changes updated) (updated.filter?.map Filter.collapsed)⟩) := by
  obtain ⟨_, -, rest⟩ := Outcome.bind_eq_ok.mp generated
  obtain ⟨rendered?, filtered, same⟩ := Outcome.bind_eq_ok.mp rest
  obtain rfl := Except.ok.inj same
  have values : Spells
      (object (updated.assignments.map fun assignment =>
        (Text.javascriptKey assignment.column, assignedValue assignment.value)))
      [changesTerm (changes updated)] := by
    rw [changesTerm, changes, List.map_map]
    refine spells_objectTerm (Outcome.forall₂_maps fun assignment member => ?_)
    have listed : (assignment.column, givenValue assignment.value) ∈ changes updated :=
      List.mem_map_of_mem member
    exact ⟨spells_key assignment.column, spells_givenValue (plainValues _ listed)⟩
  have opens : ".update(" = "." ++ "update" ++ "(" := by decide
  have word : isWord "update" = true := by decide
  have found := spells_filter? plain filtered
  generalize updated.filter?.map Filter.collapsed = given? at found ⊢
  cases found with
  | none => exact terms?_of_call updated.table opens word values
  | some spelled =>
      have called := terms?_of_call updated.table opens word
        (values.append separates_comma (spells_condition spelled))
      simp only [String.append_assoc] at called
      simp only [callTerms, actionTerms, String.append_assoc]
      exact called

theorem terms?_of_deletion {context : Context} {deleted : Deletion} {code : String}
    (plain : ∀ value ∈ deleted.filter?.toList.flatMap Filter.literals, value.isPlain = true)
    (generated : deletion context deleted = .ok code) :
    terms? code =
      some (callTerms ⟨Text.javascriptIdentifier deleted.table,
        .deletion (deleted.filter?.map Filter.collapsed)⟩) := by
  obtain ⟨rendered?, filtered, same⟩ := Outcome.bind_eq_ok.mp generated
  obtain rfl := Except.ok.inj same
  have opens : ".destroy(" = "." ++ "destroy" ++ "(" := by decide
  have ends : ".destroy();" = "." ++ "destroy" ++ "(" ++ ");" := by decide
  have word : isWord "destroy" = true := by decide
  have found := spells_filter? plain filtered
  generalize deleted.filter?.map Filter.collapsed = given? at found ⊢
  cases found with
  | none => exact terms?_of_bareCall deleted.table ends word
  | some spelled =>
      exact terms?_of_call deleted.table opens word (spells_condition spelled)

end Sequelize

end OrmCode
