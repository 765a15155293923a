import OrmCode.Code.Sequelize
import OrmCode.Proofs.Statement.Filter

/-!
# What a call of a model says

Generated code calls one method of one model.  What the call says is a statement
without what the code does not keep: the table is known by its model, a group of
one operand is that operand, and a changed column is a piece of SQL.
-/

namespace OrmCode

namespace Sequelize

/-- The new value of a column as a call gives it. -/
inductive GivenValue
  | literal (value : Literal)
  | sql (text : String)
  deriving DecidableEq

/-- The constant that a new value is, if it is one. -/
def GivenValue.literals : GivenValue → List Literal
  | literal value => [value]
  | sql _ => []

/-- What a call asks of its model. -/
inductive Action
  | insertion (rows : List (List (String × Literal)))
  | selection (columns : List String) (filter? : Option Filter) (order : List SortKey)
      (limit? offset? : Option Nat)
  | modification (values : List (String × GivenValue)) (filter? : Option Filter)
  | deletion (filter? : Option Filter)

/-- A call of a method of a model. -/
structure Call where
  model : String
  action : Action

def Action.filter? : Action → Option Filter
  | insertion _ => none
  | selection _ filter? _ _ _ => filter?
  | modification _ filter? => filter?
  | deletion filter? => filter?

/-- The columns that each object of new values lists. -/
def Action.records : Action → List (List String)
  | insertion rows => rows.map fun row => row.map Prod.fst
  | modification values _ => [values.map Prod.fst]
  | selection _ _ _ _ _ | deletion _ => []

/-- The constants of an action that are written as such. -/
def Action.literals : Action → List Literal
  | insertion rows => rows.flatten.map Prod.snd
  | selection _ filter? _ _ _ => filter?.toList.flatMap Filter.literals
  | modification values filter? =>
    (values.flatMap fun entry => entry.2.literals) ++ filter?.toList.flatMap Filter.literals
  | deletion filter? => filter?.toList.flatMap Filter.literals

/-- The characters of a text with a second quote behind each quote. -/
def doubledQuotes : List Char → List Char
  | [] => []
  | '\x27' :: rest => '\x27' :: '\x27' :: doubledQuotes rest
  | character :: rest => character :: doubledQuotes rest

/-- A constant as SQL has it: a text stands between quotes, and words are capitals. -/
def constantSql : Literal → String
  | .string text => "'" ++ String.ofList (doubledQuotes text.toList) ++ "'"
  | .number numeral => numeral
  | .boolean true => "TRUE"
  | .boolean false => "FALSE"
  | .null => "NULL"

/-- The new value of a column as a call gives it. -/
def givenValue : AssignedValue → GivenValue
  | .literal value => .literal value
  | .changed column .addition amount => .sql (column ++ " + " ++ constantSql amount)
  | .changed column .subtraction amount => .sql (column ++ " - " ++ constantSql amount)

/-- The rows of an insertion, each with its columns. -/
def records (inserted : Insertion) : List (List (String × Literal)) :=
  inserted.rows.map inserted.columns.zip

/-- The columns that an update changes with their new values. -/
def changes (updated : Update) : List (String × GivenValue) :=
  updated.assignments.map fun assignment => (assignment.column, givenValue assignment.value)

/-- What a statement asks of the model of its table. -/
def action? : Statement → Option Action
  | .insert inserted => some (.insertion (records inserted))
  | .select selected =>
    some (.selection selected.columns (selected.filter?.map Filter.collapsed) selected.order
      selected.limit? selected.offset?)
  | .update updated =>
    some (.modification (changes updated) (updated.filter?.map Filter.collapsed))
  | .delete deleted => some (.deletion (deleted.filter?.map Filter.collapsed))
  | .create _ | .unsupported _ => none

/-- The call that a statement stands for, if it is none that defines a table. -/
def call? (statement : Statement) : Option Call := do
  let table ← statement.table?
  let action ← action? statement
  return { model := Text.javascriptIdentifier table, action }

theorem doubledQuotes_eq_flatMap (characters : List Char) :
    doubledQuotes characters = characters.flatMap fun character =>
      if character = '\x27' then ['\x27', '\x27'] else [character] := by
  induction characters with
  | nil => rfl
  | cons first rest induction =>
      rw [List.flatMap_cons, ← induction]
      by_cases quote : first = '\x27'
      · rw [quote]
        rfl
      · rw [if_neg quote, doubledQuotes]
        · rfl
        · exact quote

theorem sqlLiteral_eq (amount : Literal) : sqlLiteral amount = constantSql amount := by
  cases amount with
  | string text => rw [constantSql, doubledQuotes_eq_flatMap, sqlLiteral]
  | number numeral => rfl
  | boolean value => cases value <;> rfl
  | null => rfl

/-- A changed column is a piece of SQL with its sign and its amount. -/
theorem givenValue_changed (column : String) (change : Change) (amount : Literal) :
    givenValue (.changed column change amount) =
      .sql (column ++ changeSign change ++ sqlLiteral amount) := by
  rw [sqlLiteral_eq]
  cases change <;> rfl

/-- A call has a condition exactly when its statement has a filter. -/
theorem filter?_of_action? {statement : Statement} {action : Action}
    (found : action? statement = some action) :
    action.filter? = statement.filter?.map Filter.collapsed := by
  cases statement <;> cases found <;> rfl

end Sequelize

end OrmCode
