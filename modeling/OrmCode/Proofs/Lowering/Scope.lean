import OrmCode.Proofs.Lowering.Unqualified
import OrmCode.Proofs.Meaning.Faithful

/-!
# Scopes of columns

A statement on one table gives a scope.  A column belongs to it unless its last qualifier names
neither the table nor its alias.
-/

namespace OrmCode

namespace Sql

/-- The scope that a source of rows gives, if it is one table. -/
def TableReference.scope? : TableReference → Option Lowering.Scope
  | ⟨.named name _ alias? _ _, []⟩ =>
    name.getLast?.map fun table => { table := table.text, alias? := alias?.map Name.text }
  | _ => none

def onlyScope? : List TableReference → Option Lowering.Scope
  | [reference] => reference.scope?
  | _ => none

/-- The scope of a statement that reads or changes one table. -/
def ParsedStatement.scope? : ParsedStatement → Option Lowering.Scope
  | query asked =>
    match asked.body with
    | .select selected => onlyScope? selected.sources
    | _ => none
  | update updated => updated.table.scope?
  | delete deleted => onlyScope? deleted.sources
  | _ => none

end Sql

namespace Lowering

namespace Scope

/-- The last qualifier of a name is neither the table nor its alias, whatever the letter case. -/
def IsForeign (scope : Scope) (name : Sql.QualifiedName) : Prop :=
  ∃ outer qualifier column, name = outer ++ [qualifier, column] ∧
    Text.lower qualifier.text ≠ Text.lower scope.table ∧
    ∀ label ∈ scope.alias?, Text.lower qualifier.text ≠ Text.lower label

/-- An expression is no foreign column, nor a text that may name one. -/
def Admits (scope : Scope) : Sql.Expr → Prop
  | .column name => ¬scope.IsForeign name
  | .call _ _ | .subquery _ | .other _ => False
  | _ => True

variable {scope : Scope}

theorem owns_eq_true_iff {qualifier : String} :
    scope.owns qualifier = true ↔ Text.lower qualifier = Text.lower scope.table ∨
      ∃ label ∈ scope.alias?, Text.lower qualifier = Text.lower label := by
  simp [owns, Text.sameIgnoringCase_iff, Option.any_eq_true]

theorem isForeign_append_iff {outer : Sql.QualifiedName} {qualifier column : Sql.Name} :
    scope.IsForeign (outer ++ [qualifier, column]) ↔ scope.owns qualifier.text = false := by
  have foreign : scope.IsForeign (outer ++ [qualifier, column]) ↔
      Text.lower qualifier.text ≠ Text.lower scope.table ∧
        ∀ label ∈ scope.alias?, Text.lower qualifier.text ≠ Text.lower label := by
    constructor
    · rintro ⟨_, _, _, same, apart⟩
      obtain ⟨-, rest⟩ := List.append_inj' same rfl
      obtain ⟨rfl, -⟩ := List.cons.inj rest
      exact apart
    · exact fun apart => ⟨outer, qualifier, column, rfl, apart⟩
  rw [foreign, ← Bool.not_eq_true, owns_eq_true_iff]
  simp

theorem not_isForeign_of_length {name : Sql.QualifiedName} (short : name.length ≤ 1) :
    ¬scope.IsForeign name := by
  rintro ⟨outer, qualifier, column, rfl, -⟩
  simp at short

/-- A name stands for its last part, unless its last qualifier is foreign. -/
theorem toOption_resolve (name : Sql.QualifiedName) :
    (¬scope.IsForeign name →
      (scope.resolve name).toOption = name.getLast?.map Sql.Name.text) ∧
    (scope.IsForeign name → (scope.resolve name).toOption = none) := by
  unfold resolve
  split
  · next empty =>
      obtain rfl := List.reverse_eq_nil_iff.mp empty
      exact ⟨fun _ => rfl, fun _ => rfl⟩
  · next column only =>
      obtain rfl : name = [column] := List.reverse_eq_iff.mp only
      exact ⟨fun _ => rfl, fun foreign => absurd foreign (not_isForeign_of_length (Nat.le_refl 1))⟩
  · next column qualifier outer reversed =>
      obtain rfl : name = outer.reverse ++ [qualifier, column] := by
        simpa using List.reverse_eq_iff.mp reversed
      rw [isForeign_append_iff]
      cases scope.owns qualifier.text <;> simp [Except.toOption]

theorem not_isForeign_bareName (name : Sql.QualifiedName) :
    ¬scope.IsForeign (Sql.bareName name) := by
  refine not_isForeign_of_length ?_
  unfold Sql.bareName
  cases name.getLast? <;> simp

theorem toOption_resolve_bareName {name : Sql.QualifiedName} (known : ¬scope.IsForeign name) :
    (scope.resolve (Sql.bareName name)).toOption = (scope.resolve name).toOption := by
  rw [(toOption_resolve name).1 known,
    (toOption_resolve (Sql.bareName name)).1 (not_isForeign_bareName name)]
  unfold Sql.bareName
  cases name.getLast? <;> rfl

theorem not_isForeign_of_resolve {name : Sql.QualifiedName} {column : String}
    (resolved : scope.resolve name = .ok column) : ¬scope.IsForeign name := by
  intro foreign
  have refused := (toOption_resolve name).2 foreign
  rw [resolved] at refused
  cases refused

end Scope

variable {scope : Scope}

/-- The scope that is made of a source of rows is the one that it gives. -/
theorem toOption_ofReference (reference : Sql.TableReference) :
    (Scope.ofReference reference).toOption = reference.scope? := by
  obtain ⟨relation, joins⟩ := reference
  cases joins with
  | cons join joins => cases relation <;> rfl
  | nil =>
      cases relation with
      | named name arguments alias? columns hints =>
          have named : (tableName name).toOption = name.getLast?.map Sql.Name.text := by
            unfold tableName
            cases name.getLast? <;> rfl
          have made : (Scope.ofReference ⟨.named name arguments alias? columns hints, []⟩) =
              (tableName name).map fun table => ⟨table, alias?.map Sql.Name.text⟩ := rfl
          rw [made, Outcome.toOption_map, named, Option.map_map]
          rfl
      | other text isJoin => rfl

theorem scope?_of_ofReference {reference : Sql.TableReference}
    (found : Scope.ofReference reference = .ok scope) : reference.scope? = some scope := by
  rw [← toOption_ofReference, found]
  rfl

theorem scope?_of_selectScope {sources : List Sql.TableReference}
    (found : selectScope sources = .ok scope) : Sql.onlyScope? sources = some scope := by
  obtain ⟨reference, rfl, made⟩ := Sql.Query.selectScope_eq_ok.mp found
  exact scope?_of_ofReference made

theorem scope?_of_deleteScope {sources : List Sql.TableReference}
    (found : deleteScope sources = .ok scope) : Sql.onlyScope? sources = some scope := by
  obtain ⟨reference, rfl, made⟩ := Sql.DeleteStatement.deleteScope_eq_ok.mp found
  exact scope?_of_ofReference made

end Lowering

end OrmCode
