import OrmCode.Code.HandlerTable
import OrmCode.Proofs.SqlAlchemy.Spelling
import OrmCode.Proofs.Statement.Validity

/-!
# Code is a chain of calls

The code of a statement spells the calls of its canonical form one after the other,
so that the calls are found again.
-/

namespace OrmCode

namespace SqlAlchemy

open Javascript (Term isWord)
open Python
open Sequelize (countTerm)

/-- Code that spells some calls, each of which is found under its name. -/
structure IsChain (code : String) (calls : List (String × Term)) : Prop where
  closed : Closed code (calls.map Prod.snd)
  named : ∀ call ∈ calls, called? call.2 = some call

namespace IsChain

theorem nothing : IsChain "" [] :=
  ⟨Closed.nothing, by simp⟩

theorem append {first second : String} {calls others : List (String × Term)}
    (chain : IsChain first calls) (chainToo : IsChain second others) :
    IsChain (first ++ second) (calls ++ others) := by
  refine ⟨?_, List.forall_mem_append.mpr ⟨chain.named, chainToo.named⟩⟩
  rw [List.map_append]
  exact chain.closed.append chainToo.closed

theorem method {name text : String} {arguments : List Term}
    (closed : Closed text [.list (.call name) arguments]) :
    IsChain text (method name (some arguments)) :=
  ⟨closed, fun _ member => called?_of_mem_method member⟩

theorem bare {name : String} (word : isWord name = true) :
    IsChain (call name []) (SqlAlchemy.method name (some [])) :=
  method (closed_call word .nil)

end IsChain

theorem isChain_filterCall {model : String} (modelWord : isWord model = true) {context : Context}
    {filter? : Option Filter} {rendered : String}
    (plain : ∀ value ∈ filter?.toList.flatMap Filter.literals, value.isPlain = true)
    (passed : filterCall context model filter? = .ok rendered) :
    IsChain rendered
      (method ".filter" ((filter?.map canonicalFilter).map (filterTerms model))) := by
  cases filter? with
  | none =>
      obtain rfl := Except.ok.inj passed
      exact IsChain.nothing
  | some filter =>
      obtain ⟨text, found, rfl⟩ := Outcome.map_eq_ok.mp passed
      have given := spells_render modelWord (Sequelize.plain_of_toList plain filter rfl) found
      exact IsChain.method (closed_singleCall (by decide) given)

theorem isChain_query {model : String} (modelWord : isWord model = true)
    (columns : List String) :
    IsChain (query (if columns.isEmpty then [model] else columns.map (attributeOf model)))
      (queryCall model (columns.map Text.pythonIdentifier)) := by
  have word : isWord "session.query" = true := by decide
  rw [queryCall, entityTerms, List.isEmpty_map]
  apply IsChain.method
  split
  · exact closed_singleCall word (Spells.word modelWord)
  · have spelled := closed_call word (Outcome.forall₂_maps fun column (_ : column ∈ columns) =>
      spells_attribute modelWord column)
    rw [← List.flatMap_def, ← List.map_eq_flatMap] at spelled
    rw [List.map_map]
    exact spelled

theorem isChain_countCall {name : String} (word : isWord name = true) (count? : Option Nat) :
    IsChain (count?.elim "" fun count => call name [toString count])
      (method name (count?.map fun count => [countTerm count])) := by
  cases count? with
  | none => exact IsChain.nothing
  | some count =>
      have digits := Spells.word (Javascript.isWord_toString count)
      exact IsChain.method (closed_singleCall word digits)

theorem isChain_order {model : String} (modelWord : isWord model = true) (order : List SortKey) :
    IsChain (if order.isEmpty then "" else call ".order_by" (order.map (sortKey model)))
      (method ".order_by" (if (order.map canonicalKey).isEmpty then none
        else some ((order.map canonicalKey).map (sortKeyTerm model)))) := by
  rw [List.isEmpty_map]
  split
  · exact IsChain.nothing
  · have keys := closed_call (by decide : isWord ".order_by" = true)
      (Outcome.forall₂_maps fun key (_ : key ∈ order) => spells_sortKey modelWord key)
    rw [← List.flatMap_def, ← List.map_eq_flatMap] at keys
    rw [List.map_map]
    exact IsChain.method keys

theorem isChain_committed {code : String} {calls : List (String × Term)}
    (chain : IsChain code calls) :
    IsChain (committed code) (calls ++ method "session.commit" (some [])) := by
  have commit : Closed "\nsession.commit()" [.list (.call "session.commit") []] := by
    have blank : Closed "\n" [] := fun _ => rfl
    exact blank.append (closed_call (by decide : isWord "session.commit" = true) .nil)
  exact chain.append (IsChain.method commit)

theorem isChain_addition {texts : List String} {terms : List Term}
    (each : List.Forall₂ (fun text term => Closed text [term]) texts terms) :
    IsChain ("session.add_all([\n    " ++ ",\n    ".intercalate texts ++ ",\n])")
      (method "session.add_all" (some [.list .array terms])) := by
  have items : Spells (",\n    ".intercalate texts) terms := by
    have spelled := Spells.intercalate delimits_commaBreak
      (List.forall₂_map_right_iff.mpr (each.imp fun _ _ closed => closed.spells) :
        List.Forall₂ Spells texts (terms.map fun term => [term]))
    rwa [← List.flatMap_def, ← List.map_eq_flatMap, List.map_id'] at spelled
  have list := Spells.enclosed opens_listLines closes_listLines items
  have opening : "session.add_all([\n    " = "session.add_all" ++ "(" ++ "[\n    " := by decide
  have closing : ",\n])" = ",\n]" ++ ")" := by decide
  have spelled := closed_singleCall (by decide : isWord "session.add_all" = true) list.spells
  apply IsChain.method
  simp only [call, String.intercalate_singleton, String.append_assoc] at spelled
  simp only [opening, closing, String.append_assoc]
  exact spelled

theorem isChain_insertion {inserted : Insertion} {code : String}
    (plain : ∀ row ∈ inserted.rows, ∀ value ∈ row, value.isPlain = true)
    (generated : insertion inserted = .ok code) :
    IsChain code (insertionCalls (canonicalInsertion inserted)) := by
  obtain ⟨_, -, rest⟩ := Outcome.bind_eq_ok.mp generated
  obtain ⟨names, passed, same⟩ := Outcome.bind_eq_ok.mp rest
  obtain rfl := Except.ok.inj same
  obtain rfl := attributeNames_eq_ok passed
  have word := isWord_pythonIdentifier inserted.table
  have each : List.Forall₂ (fun text term => Closed text [term])
      (inserted.rows.map (record (Text.pythonIdentifier inserted.table)
        (inserted.columns.map Text.pythonIdentifier)))
      (inserted.rows.map fun row => recordTerm (Text.pythonIdentifier inserted.table)
        ((inserted.columns.map Text.pythonIdentifier).zip row)) := by
    refine Outcome.forall₂_maps fun row member => ?_
    apply closed_record word _ (plain row member)
    intro name listed
    obtain ⟨column, -, rfl⟩ := List.mem_map.mp listed
    exact isWord_pythonIdentifier column
  have several := isChain_addition each
  rw [insertionCalls, canonicalInsertion]
  generalize inserted.rows.map (record _ _) = texts at each several ⊢
  generalize (inserted.rows.map fun row => recordTerm _ _) = terms at each several ⊢
  cases each with
  | nil => exact isChain_committed several
  | cons only later =>
      cases later with
      | nil =>
          have one := closed_singleCall (by decide : isWord "session.add" = true) only.spells
          exact isChain_committed (IsChain.method one)
      | cons next others => exact isChain_committed several

theorem isChain_selection {context : Context} {selected : Selection} {code : String}
    (plain : ∀ value ∈ selected.filter?.toList.flatMap Filter.literals, value.isPlain = true)
    (generated : selection context selected = .ok code) :
    IsChain code (calls (.select (canonicalSelection selected))) := by
  obtain ⟨filtered, passed, same⟩ := Outcome.bind_eq_ok.mp generated
  obtain rfl := Except.ok.inj same
  have word := isWord_pythonIdentifier selected.table
  have entities := isChain_query word selected.columns
  have filter := isChain_filterCall word plain passed
  have order := isChain_order word selected.order
  have limit := isChain_countCall (by decide : isWord ".limit" = true) selected.limit?
  have offset := isChain_countCall (by decide : isWord ".offset" = true) selected.offset?
  have all := IsChain.bare (by decide : isWord ".all" = true)
  have ending : ".all()" = call ".all" [] := by decide
  have chain := entities.append (filter.append (order.append (limit.append (offset.append all))))
  simp only [queryTail, ending, String.append_assoc, calls, selectionMethods, canonicalSelection,
    List.append_assoc]
  exact chain

theorem isChain_values {model : String} (modelWord : isWord model = true)
    {assignments : List Assignment}
    (readable : ∀ assignment ∈ assignments, ReadableValue (canonicalValue assignment.value)) :
    IsChain (call ".update" ["\x7b" ++ ", ".intercalate (assignments.map fun assignment =>
        Text.quoted (Text.pythonIdentifier assignment.column) ++ ": " ++
          assignedValue model assignment.value) ++ "\x7d"])
      (method ".update" (some [.list .object
        ((assignments.map canonicalAssignment).flatMap (assignmentTerms model))])) := by
  have each : ∀ assignment ∈ assignments,
      Spells (Text.quoted (Text.pythonIdentifier assignment.column) ++ ": " ++
          assignedValue model assignment.value)
        (assignmentTerms model (canonicalAssignment assignment)) := by
    intro assignment member
    have name := (Closed.quoted (Text.pythonIdentifier assignment.column)).append
      delimits_colon.2
    exact name.append_spells (spells_assignedValue modelWord (readable assignment member))
  have items := Spells.intercalate delimits_comma (Outcome.forall₂_maps each)
  have dictionary := Spells.enclosed opens_dictionary closes_dictionary items
  rw [← List.flatMap_def, ← List.flatMap_map] at dictionary
  exact IsChain.method (closed_singleCall (by decide) dictionary.spells)

theorem isChain_modification {context : Context} {updated : Update} {code : String}
    (plain : ∀ value ∈ updated.filter?.toList.flatMap Filter.literals, value.isPlain = true)
    (readable : ∀ assignment ∈ updated.assignments,
      ReadableValue (canonicalValue assignment.value))
    (generated : modification context updated = .ok code) :
    IsChain code (calls (.update (canonicalUpdate updated))) := by
  obtain ⟨_, -, rest⟩ := Outcome.bind_eq_ok.mp generated
  obtain ⟨names, given, rest⟩ := Outcome.bind_eq_ok.mp rest
  obtain ⟨filtered, passed, same⟩ := Outcome.bind_eq_ok.mp rest
  obtain rfl := Except.ok.inj same
  obtain rfl := attributeNames_eq_ok given
  have word := isWord_pythonIdentifier updated.table
  -- A query without attributes asks for the objects themselves.
  have entities := isChain_query word []
  have filter := isChain_filterCall word plain passed
  have values := isChain_values word readable
  have chain := isChain_committed ((entities.append filter).append values)
  rw [List.map_map, ← List.map_prod_right_eq_zip, List.map_map]
  simp only [calls, modificationMethods, List.append_assoc] at chain ⊢
  exact chain

theorem isChain_deletion {context : Context} {deleted : Deletion} {code : String}
    (plain : ∀ value ∈ deleted.filter?.toList.flatMap Filter.literals, value.isPlain = true)
    (generated : deletion context deleted = .ok code) :
    IsChain code (calls (.delete (canonicalDeletion deleted))) := by
  obtain ⟨filtered, passed, same⟩ := Outcome.bind_eq_ok.mp generated
  obtain rfl := Except.ok.inj same
  have word := isWord_pythonIdentifier deleted.table
  have entities := isChain_query word []
  have filter := isChain_filterCall word plain passed
  have delete := IsChain.bare (by decide : isWord ".delete" = true)
  have ending : ".delete()" = call ".delete" [] := by decide
  have chain := isChain_committed ((entities.append filter).append delete)
  simp only [ending, calls, deletionMethods, List.append_assoc] at chain ⊢
  exact chain

/-- The calls of a chain are found in the code. -/
theorem IsChain.mapM_called? {code : String} {calls : List (String × Term)}
    (chain : IsChain code calls) : (terms? code).bind (·.mapM called?) = some calls := by
  rw [terms?_of_closed chain.closed, Option.bind_some, Outcome.mapM_map_eq_some chain.named]

end SqlAlchemy

end OrmCode
