import OrmCode.Proofs.Javascript.Word
import OrmCode.Proofs.Python.Term
import OrmCode.Proofs.SqlAlchemy.Attribute
import OrmCode.Proofs.SqlAlchemy.Chain

/-!
# Code spells chains of calls

Every piece of generated code spells the terms of what it stands for, and the code
of a whole statement the calls of its canonical form.
-/

namespace OrmCode

namespace SqlAlchemy

open Javascript (Term isWord isWord_append continuesWord)
open Python

theorem spells_literal {value : Literal} (plain : value.isPlain = true) :
    Spells (literal value) [literalTerm value] := by
  cases value with
  | string value => exact (Closed.quoted value).spells
  | number numeral => exact Spells.word (Javascript.isWord_of_isNumeral plain)
  | boolean value =>
      cases value with
      | true => exact Spells.word (by decide : isWord "True" = true)
      | false => exact Spells.word (by decide : isWord "False" = true)
  | null => exact Spells.word (by decide : isWord "None" = true)

theorem closed_call {function : String} (word : isWord function = true) {texts : List String}
    {terms : List (List Term)} (each : List.Forall₂ Spells texts terms) :
    Closed (call function texts) [.list (.call function) terms.flatten] :=
  Spells.enclosed (opens_call word) (closes_call function)
    (Spells.intercalate delimits_comma each)

theorem closed_singleCall {function : String} (word : isWord function = true) {text : String}
    {terms : List Term} (spelled : Spells text terms) :
    Closed (call function [text]) [.list (.call function) terms] := by
  have found := closed_call word (.cons spelled .nil)
  rwa [List.flatten_singleton] at found

theorem spells_operand {operand : Operand}
    (plain : ∀ value ∈ operand.literals, value.isPlain = true) :
    Spells (SqlAlchemy.operand operand) [operandTerm operand] := by
  cases operand with
  | single value => exact spells_literal (plain value List.mem_cons_self)
  | list values =>
      have items := Spells.intercalate delimits_comma
        (Outcome.forall₂_maps fun value member => spells_literal (plain value member))
      rw [← List.flatMap_def, ← List.map_eq_flatMap] at items
      exact (Spells.enclosed opens_list closes_list items).spells

/-- The names of a path are words, and so is the path. -/
theorem isWord_path {names : List String} (something : names ≠ [])
    (each : ∀ name ∈ names, isWord name = true) : isWord (path names) = true := by
  induction names with
  | nil => exact absurd rfl something
  | cons first names induction =>
      obtain ⟨here, later⟩ := List.forall_mem_cons.mp each
      cases names with
      | nil => rwa [path, String.intercalate_singleton]
      | cons second names =>
          have rest := induction (List.cons_ne_nil second names) later
          rw [isWord, Bool.and_eq_true] at here
          rw [path, String.intercalate_cons_cons]
          apply isWord_append _ rest
          rw [String.toList_append, List.all_append, here.2]
          decide

theorem isWord_pythonIdentifier (name : String) : isWord (Text.pythonIdentifier name) = true :=
  Javascript.isWord_identifierAvoiding _ name

theorem attributeOf_eq (model column : String) :
    attributeOf model column = path [model, Text.pythonIdentifier column] := by
  rw [attributeOf, path, String.intercalate_cons_cons, String.intercalate_singleton]

theorem attributeOf_method (model column name : String) :
    attributeOf model column ++ ("." ++ name) = path [model, Text.pythonIdentifier column, name] := by
  rw [attributeOf, path, String.intercalate_cons_cons, String.intercalate_cons_cons,
    String.intercalate_singleton]
  simp only [String.append_assoc]

/-- An operator between blanks is a word of its own. -/
theorem delimits_operator {comparator : Comparator} {token : String}
    (written : operatorForm? comparator = some (.between token)) :
    Delimits (" " ++ token ++ " ") [.word token] := by
  have lexed : ∀ rest, tokens ((" " ++ token ++ " ").toList ++ rest) =
      .word token :: tokens rest := by
    cases comparator <;> cases written <;> exact fun _ => rfl
  refine ⟨⟨' ', (token ++ " ").toList, ?_, by decide⟩, fun rest => ?_⟩
  · rw [String.append_assoc, String.toList_append]
    rfl
  · rw [lexed, List.flatMap_singleton, Term.tokens]
    rfl

theorem delimits_sign (change : Change) : Delimits (changeSign change) [signTerm change] := by
  cases change <;>
    refine ⟨⟨' ', _, rfl, by decide⟩, fun rest => ?_⟩ <;>
    rw [signTerm, List.flatMap_singleton, Term.tokens] <;>
    rfl

theorem spells_groupOf {context : Context} {model : String} (connective : Connective)
    {texts : List String} {operands : List Filter}
    (each : List.Forall₂ (fun text operand => Spells text (filterTerms model operand)) texts
      operands) :
    Spells ((renderer context model).group connective texts)
      (filterTerms model (Filter.groupOf connective operands)) := by
  have several : Spells ((renderer context model).combine connective texts)
      (filterTerms model (.group connective operands)) := by
    have word : isWord (connectiveFunction connective) = true := by cases connective <;> decide
    rw [filterTerms, List.flatMap_def]
    exact (closed_call word (List.forall₂_map_right_iff.mpr each)).spells
  cases each with
  | nil => exact several
  | cons only others =>
      cases others with
      | nil => exact only
      | cons next others => exact several

section Model

variable {model : String} (modelWord : isWord model = true)

include modelWord

theorem isWord_attribute (column : String) :
    isWord (path [model, Text.pythonIdentifier column]) = true :=
  isWord_path (List.cons_ne_nil _ _) (by simp [modelWord, isWord_pythonIdentifier])

theorem isWord_method (column : String) {name : String} (word : isWord name = true) :
    isWord (path [model, Text.pythonIdentifier column, name]) = true :=
  isWord_path (List.cons_ne_nil _ _) (by simp [modelWord, isWord_pythonIdentifier, word])

theorem spells_attribute (column : String) :
    Spells (attributeOf model column) [.word (path [model, Text.pythonIdentifier column])] := by
  rw [attributeOf_eq]
  exact Spells.word (isWord_attribute modelWord column)

theorem spells_comparison {context : Context} {leaf : Comparison} {rendered : String}
    (plain : ∀ value ∈ leaf.operand.literals, value.isPlain = true)
    (passed : comparison context model leaf = .ok rendered) :
    Spells rendered
      (comparisonTerms model { leaf with column := Text.pythonIdentifier leaf.column }) := by
  have compared := spells_operand plain
  rw [comparison] at passed
  rw [comparisonTerms]
  cases form : operatorForm? leaf.comparator with
  | none =>
      rw [form] at passed
      obtain ⟨_, -, same⟩ := Outcome.bind_eq_ok.mp passed
      obtain rfl := Except.ok.inj same
      -- The operator is the result of a call, and that result is called in turn.
      have function := isWord_method modelWord leaf.column (by decide : isWord "op" = true)
      have operator := closed_singleCall function (Closed.quoted leaf.comparator.sql).spells
      have applied := Spells.enclosed opens_application (closes_call "") compared
      have name : attributeOf model leaf.column ++ ".op" = _ :=
        attributeOf_method model leaf.column "op"
      have spelled := (operator.append applied).spells
      rw [name]
      simp only [call, String.intercalate_singleton, String.append_assoc] at spelled ⊢
      exact spelled
  | some written =>
      rw [form] at passed
      cases written with
      | between token =>
          obtain rfl := Except.ok.inj passed
          have column := spells_attribute modelWord leaf.column
          have spelled := (column.delimited (delimits_operator form)).append_spells compared
          simp only [String.append_assoc] at spelled ⊢
          exact spelled
      | method name =>
          obtain rfl := Except.ok.inj passed
          have word : isWord name = true := by
            cases comparator : leaf.comparator <;> rw [comparator] at form <;> cases form <;> decide
          have spelled := closed_singleCall (isWord_method modelWord leaf.column word) compared
          rw [String.append_assoc, attributeOf_method]
          exact spelled.spells

/-- A rendered filter spells the filter over attributes with every group of one operand
replaced by that operand. -/
theorem spells_render {context : Context} {filter : Filter} {rendered : String}
    (plain : ∀ value ∈ filter.literals, value.isPlain = true)
    (passed : filter.render (renderer context model) = .ok rendered) :
    Spells rendered (filterTerms model (canonicalFilter filter)) := by
  induction filter generalizing rendered with
  | comparison leaf =>
      rw [Filter.literals_comparison] at plain
      rw [canonicalFilter, Filter.renamed, Filter.collapsed, filterTerms]
      exact spells_comparison modelWord plain passed
  | group connective operands induction =>
      rw [Filter.literals_group] at plain
      rw [Filter.render, Filter.renderAll_eq_mapM] at passed
      obtain ⟨texts, rendered, rfl⟩ := Outcome.map_eq_ok.mp passed
      rw [canonicalFilter, Filter.renamed, Filter.collapsed, List.map_map]
      apply spells_groupOf
      rw [List.forall₂_map_right_iff]
      apply List.Forall₂.flip
      apply Outcome.forall₂_of_mapM rendered
      intro operand member text found
      exact induction operand member
        (fun value listed => plain value (List.mem_flatMap_of_mem member listed)) found
  | negation operand induction =>
      rw [Filter.literals_negation] at plain
      obtain ⟨text, found, rfl⟩ := Outcome.map_eq_ok.mp passed
      rw [canonicalFilter, Filter.renamed, Filter.collapsed, filterTerms]
      exact (closed_singleCall (by decide) (induction plain found)).spells

theorem spells_sortKey (key : SortKey) :
    Spells (sortKey model key) [sortKeyTerm model (canonicalKey key)] := by
  obtain ⟨column, ascending⟩ := key
  cases ascending with
  | true =>
      have same : sortKey model ⟨column, true⟩ = attributeOf model column := by
        rw [sortKey, if_pos rfl, String.append_empty]
      rw [same]
      exact spells_attribute modelWord column
  | false =>
      have same : sortKey model ⟨column, false⟩ =
          call (path [model, Text.pythonIdentifier column, "desc"]) [] := by
        have ending : ".desc()" = "." ++ "desc" ++ "(" ++ ", ".intercalate [] ++ ")" := by decide
        rw [← attributeOf_method, call, sortKey, if_neg Bool.false_ne_true, ending]
        simp only [String.append_assoc]
      rw [same]
      exact (closed_call (isWord_method modelWord column (by decide)) .nil).spells

theorem spells_assignedValue {value : AssignedValue}
    (readable : ReadableValue (canonicalValue value)) :
    Spells (assignedValue model value) (valueTerms model (canonicalValue value)) := by
  cases value with
  | literal given => exact spells_literal readable
  | changed column change amount =>
      have sign := delimits_sign change
      have changed := (spells_attribute modelWord column).delimited sign
      exact changed.append_spells (spells_literal readable.2)

/-- The records of one class spell their attributes and values. -/
theorem closed_record {names : List String} {row : List Literal}
    (words : ∀ name ∈ names, isWord name = true) (plain : ∀ value ∈ row, value.isPlain = true) :
    Closed (record model names row) [recordTerm model (names.zip row)] := by
  rw [record, recordTerm, List.flatMap_def]
  apply closed_call modelWord
  apply Outcome.forall₂_maps
  rintro ⟨name, value⟩ member
  obtain ⟨nameMember, valueMember⟩ := List.of_mem_zip member
  have argument := Closed.argument (words name nameMember)
  exact argument.append_spells (spells_literal (plain value valueMember))

end Model

end SqlAlchemy

end OrmCode
