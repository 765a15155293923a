import OrmCode.Proofs.Meaning.Overlooked

/-!
# Statements without qualifiers

A statement can be written without the qualifiers of its columns, wherever in its expressions
these stand.
-/

namespace OrmCode

namespace Sql

/-- An expression with all expressions inside it. -/
def Expr.parts : Expr → List Expr
  | column name => [column name]
  | value constant => [value constant]
  | not operand => not operand :: operand.parts
  | minus operand => minus operand :: operand.parts
  | binary operator left right => binary operator left right :: (left.parts ++ right.parts)
  | nested inner => nested inner :: inner.parts
  | like kind negated any subject pattern escape? =>
    like kind negated any subject pattern escape? :: (subject.parts ++ pattern.parts)
  | inList negated subject items =>
    inList negated subject items :: (subject.parts ++ partsOfAll items)
  | between negated subject low high =>
    between negated subject low high :: (subject.parts ++ low.parts ++ high.parts)
  | isNull negated subject => isNull negated subject :: subject.parts
  | call function rest => [call function rest]
  | subquery query => [subquery query]
  | other text => [other text]
where
  /-- Several expressions with all expressions inside them. -/
  partsOfAll : List Expr → List Expr
    | [] => []
    | item :: items => item.parts ++ partsOfAll items

/-- The expression without the qualifiers of its columns, wherever these stand. -/
def Expr.unqualified : Expr → Expr
  | column name => column (bareName name)
  | not operand => not operand.unqualified
  | minus operand => minus operand.unqualified
  | binary operator left right => binary operator left.unqualified right.unqualified
  | nested inner => nested inner.unqualified
  | like kind negated any subject pattern escape? =>
    like kind negated any subject.unqualified pattern.unqualified escape?
  | inList negated subject items => inList negated subject.unqualified (unqualifiedAll items)
  | between negated subject low high =>
    between negated subject.unqualified low.unqualified high.unqualified
  | isNull negated subject => isNull negated subject.unqualified
  | expression => expression
where
  /-- Several expressions without the qualifiers of their columns. -/
  unqualifiedAll : List Expr → List Expr
    | [] => []
    | item :: items => item.unqualified :: unqualifiedAll items

theorem length_bareName_le (name : QualifiedName) : (bareName name).length ≤ 1 := by
  unfold bareName
  cases name.getLast? <;> simp

mutual

/-- Without its qualifiers an expression has none at any depth. -/
theorem Expr.length_of_unqualified (expression : Expr) :
    ∀ name, column name ∈ expression.unqualified.parts → name.length ≤ 1 := by
  intro name member
  cases expression with
  | column name => simp_all [unqualified, parts, length_bareName_le]
  | not operand | minus operand | nested operand | isNull _ operand =>
      have inside := length_of_unqualified operand name
      simp_all [unqualified, parts]
  | binary _ first second | like _ _ _ first second _ =>
      have inFirst := length_of_unqualified first name
      have inSecond := length_of_unqualified second name
      simp only [unqualified, parts, List.mem_cons, List.mem_append, reduceCtorEq, false_or]
        at member
      exact member.elim inFirst inSecond
  | between _ subject low high =>
      have inSubject := length_of_unqualified subject name
      have inLow := length_of_unqualified low name
      have inHigh := length_of_unqualified high name
      simp only [unqualified, parts, List.mem_cons, List.mem_append, reduceCtorEq, false_or]
        at member
      exact member.elim (fun earlier => earlier.elim inSubject inLow) inHigh
  | inList _ subject items =>
      have inSubject := length_of_unqualified subject name
      have inItems := length_of_unqualifiedAll items name
      simp only [unqualified, parts, List.mem_cons, List.mem_append, reduceCtorEq, false_or]
        at member
      exact member.elim inSubject inItems
  | value _ | call _ _ | subquery _ | other _ => simp [unqualified, parts] at member

theorem Expr.length_of_unqualifiedAll (items : List Expr) :
    ∀ name, column name ∈ parts.partsOfAll (unqualified.unqualifiedAll items) →
      name.length ≤ 1 := by
  intro name member
  cases items with
  | nil => simp [unqualified.unqualifiedAll, parts.partsOfAll] at member
  | cons item items =>
      simp only [unqualified.unqualifiedAll, parts.partsOfAll, List.mem_append] at member
      exact member.elim (length_of_unqualified item name) (length_of_unqualifiedAll items name)

end

namespace SelectItem

def expression? : SelectItem → Option Expr
  | unnamed expression => some expression
  | aliased expression _ => some expression
  | everything _ => none
  | everythingOf _ _ => none

def unqualified : SelectItem → SelectItem
  | unnamed expression => unnamed expression.unqualified
  | aliased expression label => aliased expression.unqualified label
  | item => item

end SelectItem

namespace SetClause

/-- The columns that an assignment sets, and its value. -/
def expressions (clause : SetClause) : List Expr :=
  match clause.target with
  | .column name => [.column name, clause.value]
  | .tuple names => names.map Expr.column ++ [clause.value]

def unqualified (clause : SetClause) : SetClause where
  target := match clause.target with
    | .column name => .column (bareName name)
    | .tuple names => .tuple (names.map bareName)
  value := clause.value.unqualified

end SetClause

def OrderItem.unqualified (item : OrderItem) : OrderItem :=
  { item with expression := item.expression.unqualified }

def Select.unqualified (selected : Select) : Select :=
  { selected with
    items := selected.items.map SelectItem.unqualified
    condition? := selected.condition?.map Expr.unqualified }

def Query.unqualified (asked : Query) : Query :=
  { asked with
    body := match asked.body with
      | .select selected => .select selected.unqualified
      | body => body
    order := asked.order.map OrderItem.unqualified }

def UpdateStatement.unqualified (updated : UpdateStatement) : UpdateStatement :=
  { updated with
    assignments := updated.assignments.map SetClause.unqualified
    condition? := updated.condition?.map Expr.unqualified }

def DeleteStatement.unqualified (deleted : DeleteStatement) : DeleteStatement :=
  { deleted with condition? := deleted.condition?.map Expr.unqualified }

namespace ParsedStatement

/-- What is selected, compared, sorted by and assigned in a statement. -/
def expressions : ParsedStatement → List Expr
  | query asked =>
    match asked.body with
    | .select selected =>
      selected.items.filterMap SelectItem.expression? ++ selected.condition?.toList ++
        asked.order.map OrderItem.expression
    | _ => []
  | update updated =>
    updated.assignments.flatMap SetClause.expressions ++ updated.condition?.toList
  | delete deleted => deleted.condition?.toList
  | _ => []

def unqualified : ParsedStatement → ParsedStatement
  | query asked => .query asked.unqualified
  | update updated => .update updated.unqualified
  | delete deleted => .delete deleted.unqualified
  | statement => statement

/-- Without its qualifiers an expression of a statement is one of the statement without its
qualifiers. -/
theorem expressions_unqualified (parsed : ParsedStatement) :
    parsed.unqualified.expressions = parsed.expressions.map Expr.unqualified := by
  cases parsed with
  | query asked =>
      obtain ⟨commonTables, body, order⟩ := asked
      cases body with
      | select selected =>
          have items : (selected.items.map SelectItem.unqualified).filterMap
                SelectItem.expression? =
              (selected.items.filterMap SelectItem.expression?).map Expr.unqualified := by
            rw [List.filterMap_map, List.map_filterMap]
            exact List.filterMap_congr fun item _ => by cases item <;> rfl
          simp [expressions, unqualified, Query.unqualified, Select.unqualified, items,
            Option.toList_map]
          exact fun _ _ => rfl
      | _ => rfl
  | update updated =>
      have clauses (clause : SetClause) :
          clause.unqualified.expressions = clause.expressions.map Expr.unqualified := by
        obtain ⟨target, value⟩ := clause
        cases target <;> simp [SetClause.expressions, SetClause.unqualified, Expr.unqualified]
      simp [expressions, unqualified, UpdateStatement.unqualified, List.flatMap_map,
        List.map_flatMap, clauses, Option.toList_map]
  | delete deleted =>
      simp [expressions, unqualified, DeleteStatement.unqualified, Option.toList_map]
  | _ => rfl

end ParsedStatement

end Sql

end OrmCode
