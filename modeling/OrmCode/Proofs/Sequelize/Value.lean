import OrmCode.Proofs.Javascript.Term
import OrmCode.Proofs.Outcome
import OrmCode.Proofs.Sequelize.Call
import OrmCode.Text.WholeNumber

/-!
# Reading values

Constants, filters, rows and the keys of an order are terms, and each is read back from its term.
-/

namespace OrmCode

namespace Sequelize

open Javascript (Term)
open Outcome (mapM_map_eq_some)

def literalTerm : Literal → Term
  | .string value => .text value
  | .number numeral => .word numeral
  | .boolean true => .word "true"
  | .boolean false => .word "false"
  | .null => .word "null"

/-- The constant that a term is made of. -/
def literal? : Term → Option Literal
  | .text value => some (.string value)
  | .word "true" => some (.boolean true)
  | .word "false" => some (.boolean false)
  | .word "null" => some .null
  | .word numeral => some (.number numeral)
  | .list _ _ => none

theorem literal?_literalTerm {value : Literal} (plain : value.isPlain = true) :
    literal? (literalTerm value) = some value := by
  cases value with
  | number numeral =>
      have different : ∀ name : String, Text.isNumeral name = false → numeral ≠ name := by
        rintro name refused rfl
        rw [Literal.isPlain, refused] at plain
        cases plain
      rw [literalTerm, literal?]
      · exact different "true" (by decide)
      · exact different "false" (by decide)
      · exact different "null" (by decide)
  | boolean value => cases value <;> rfl
  | _ => rfl

/-- The term of what a column is compared with. -/
def operandTerm : Operand → Term
  | .single value => literalTerm value
  | .list values => .list .array (values.map literalTerm)

/-- What a column is compared with by a term. -/
def operand? : Term → Option Operand
  | .list .array items => (items.mapM literal?).map .list
  | term => (literal? term).map .single

theorem operand?_operandTerm {operand : Operand}
    (plain : ∀ value ∈ operand.literals, value.isPlain = true) :
    operand? (operandTerm operand) = some operand := by
  cases operand with
  | single value =>
      have here := literal?_literalTerm (plain value List.mem_cons_self)
      rw [operandTerm, operand?]
      · rw [here]
        rfl
      · intro items same
        rw [same] at here
        cases here
  | list values =>
      have each : (values.map literalTerm).mapM literal? = some values :=
        mapM_map_eq_some fun value member => literal?_literalTerm (plain value member)
      rw [operandTerm, operand?, each]
      rfl

def keyTerm (name : String) : Term :=
  if Text.isIdentifier name then .word name else .text name

/-- The name that a term is as the key of an object. -/
def name? : Term → Option String
  | .word name | .text name => some name
  | .list _ _ => none

theorem name?_keyTerm (name : String) : name? (keyTerm name) = some name := by
  unfold keyTerm
  split <;> rfl

/-- The term of an operator as the key of an object. -/
def operatorTerm (name : String) : Term :=
  .list .array [.word ("Op." ++ name)]

/-- The operator that a word names. -/
def comparator? (word : String) : Option Comparator :=
  [.equal, .different, .greater, .atLeast, .less, .atMost, .like, .notLike, .among, .notAmong,
    .identical, .notIdentical].find? fun comparator =>
      (operatorName? comparator).map ("Op." ++ ·) == some word

theorem comparator?_of_operatorName? {comparator : Comparator} {name : String}
    (named : operatorName? comparator = some name) :
    comparator? ("Op." ++ name) = some comparator := by
  cases comparator <;> cases named <;> decide

def connective? (word : String) : Option Connective :=
  [.conjunction, .disjunction].find? fun connective => "Op." ++ connectiveName connective == word

theorem connective?_connectiveName (connective : Connective) :
    connective? ("Op." ++ connectiveName connective) = some connective := by
  cases connective <;> decide

def comparisonTerm (leaf : Comparison) : Term :=
  match operatorName? leaf.comparator with
  | some name =>
    .list .object [keyTerm leaf.column,
      .list .object [operatorTerm name, operandTerm leaf.operand]]
  | none =>
    .list (.call "sequelize.where") [.list (.call "sequelize.col") [.text leaf.column],
      .text leaf.comparator.sql, operandTerm leaf.operand]

def filterTerm : Filter → Term
  | .comparison leaf => comparisonTerm leaf
  | .group connective operands =>
    .list .object [operatorTerm (connectiveName connective),
      .list .array (operands.map filterTerm)]
  | .negation operand => .list .object [operatorTerm "not", filterTerm operand]

def filterOf? : Term → Option Filter
  | .list .object [.list .array [.word "Op.not"], operand] =>
    (filterOf? operand).map .negation
  | .list .object [.list .array [.word connective], .list .array operands] => do
    return .group (← connective? connective) (← operands.mapM filterOf?)
  | .list .object [key, .list .object [.list .array [.word operator], operand]] => do
    return .comparison ⟨← name? key, ← comparator? operator, ← operand? operand⟩
  | .list (.call "sequelize.where")
      [.list (.call "sequelize.col") [.text column], .text token, operand] => do
    return .comparison ⟨column, .other token, ← operand? operand⟩
  | _ => none

theorem filterOf?_comparisonTerm {leaf : Comparison}
    (plain : ∀ value ∈ leaf.operand.literals, value.isPlain = true) :
    filterOf? (comparisonTerm leaf) = some (.comparison leaf) := by
  have compared := operand?_operandTerm plain
  unfold comparisonTerm
  split
  · next name named =>
      have key := name?_keyTerm leaf.column
      have operator := comparator?_of_operatorName? named
      unfold operatorTerm keyTerm at *
      split <;> rw [filterOf?] <;> simp_all
  · next unnamed =>
      obtain ⟨column, comparator, operand⟩ := leaf
      cases comparator with
      | other token =>
          rw [filterOf?, compared]
          rfl
      | _ => cases unnamed

/-- A filter is read back from its term. -/
theorem filterOf?_filterTerm {filter : Filter}
    (plain : ∀ value ∈ filter.literals, value.isPlain = true) :
    filterOf? (filterTerm filter) = some filter := by
  induction filter with
  | comparison leaf =>
      rw [Filter.literals_comparison] at plain
      rw [filterTerm, filterOf?_comparisonTerm plain]
  | group connective operands induction =>
      rw [Filter.literals_group] at plain
      have each : (operands.map filterTerm).mapM filterOf? = some operands :=
        mapM_map_eq_some fun operand member => induction operand member fun value listed =>
          plain value (List.mem_flatMap_of_mem member listed)
      have named := connective?_connectiveName connective
      rw [filterTerm, operatorTerm, filterOf?, each, named]
      · rfl
      · cases connective <;> decide
  | negation operand induction =>
      rw [Filter.literals_negation] at plain
      have negated : operatorTerm "not" = .list .array [.word "Op.not"] := rfl
      rw [filterTerm, negated, filterOf?, induction plain]
      rfl

/-- The term of an object from its names and values. -/
def objectTerm (entries : List (String × Term)) : Term :=
  .list .object (entries.flatMap fun (name, value) => [keyTerm name, value])

/-- The names and values that take turns. -/
def entries? : List Term → Option (List (String × Term))
  | [] => some []
  | [_] => none
  | key :: value :: rest => do return (← name? key, value) :: (← entries? rest)

/-- The names and values of an object. -/
def object? : Term → Option (List (String × Term))
  | .list .object items => entries? items
  | _ => none

/-- Names and values that take turns are read back. -/
theorem entries?_flatMap {Entry : Type} (key value : Entry → Term) {name : Entry → String}
    (named : ∀ entry, name? (key entry) = some (name entry)) (entries : List Entry) :
    entries? (entries.flatMap fun entry => [key entry, value entry]) =
      some (entries.map fun entry => (name entry, value entry)) := by
  induction entries with
  | nil => rfl
  | cons entry entries induction =>
      rw [List.flatMap_cons]
      simp only [List.cons_append, List.nil_append, entries?, named, induction]
      rfl

theorem object?_objectTerm (entries : List (String × Term)) :
    object? (objectTerm entries) = some entries := by
  have read := @entries?_flatMap (String × Term) (fun entry => keyTerm entry.1) Prod.snd Prod.fst
    (fun entry => name?_keyTerm entry.1) entries
  rw [objectTerm, object?]
  exact read.trans (by rw [List.map_id'])

/-- Members that are changed into entries with their names are read back if each value is. -/
theorem mapM_entries {Value : Type} {make : Value → Term} {read : Term → Option Value}
    {entries : List (String × Value)}
    (each : ∀ entry ∈ entries, read (make entry.2) = some entry.2) :
    ((entries.map fun (name, value) => (name, make value)).mapM fun (name, term) =>
      (read term).map fun value => (name, value)) = some entries := by
  apply mapM_map_eq_some
  rintro ⟨name, value⟩ member
  have here := each (name, value) member
  simp [here]

def rowTerm (row : List (String × Literal)) : Term :=
  objectTerm (row.map fun (name, value) => (name, literalTerm value))

def row? (term : Term) : Option (List (String × Literal)) := do
  (← object? term).mapM fun (name, value) => (literal? value).map fun value => (name, value)

theorem row?_rowTerm {row : List (String × Literal)}
    (plain : ∀ entry ∈ row, entry.2.isPlain = true) : row? (rowTerm row) = some row := by
  rw [row?, rowTerm, object?_objectTerm]
  exact mapM_entries fun entry member => literal?_literalTerm (plain entry member)

def valueTerm : GivenValue → Term
  | .literal value => literalTerm value
  | .sql text => .list (.call "sequelize.literal") [.text text]

/-- The new value that a term is made of. -/
def value? : Term → Option GivenValue
  | .list (.call "sequelize.literal") [.text text] => some (.sql text)
  | term => (literal? term).map .literal

theorem value?_valueTerm {value : GivenValue}
    (plain : ∀ given ∈ value.literals, given.isPlain = true) :
    value? (valueTerm value) = some value := by
  cases value with
  | literal given =>
      have here := literal?_literalTerm (plain given List.mem_cons_self)
      rw [valueTerm, value?]
      · rw [here]
        rfl
      · intro text same
        rw [same] at here
        cases here
  | sql text => rfl

/-- The term of the new values of an update. -/
def changesTerm (values : List (String × GivenValue)) : Term :=
  objectTerm (values.map fun (name, value) => (name, valueTerm value))

/-- The new values that a term is made of. -/
def changes? (term : Term) : Option (List (String × GivenValue)) := do
  (← object? term).mapM fun (name, value) => (value? value).map fun value => (name, value)

theorem changes?_changesTerm {values : List (String × GivenValue)}
    (plain : ∀ entry ∈ values, ∀ given ∈ entry.2.literals, given.isPlain = true) :
    changes? (changesTerm values) = some values := by
  rw [changes?, changesTerm, object?_objectTerm]
  exact mapM_entries fun entry member => value?_valueTerm (plain entry member)

def sortKeyTerm (key : SortKey) : Term :=
  .list .array [.text key.column, .text (if key.ascending then "ASC" else "DESC")]

/-- The column to sort by that a term is made of. -/
def sortKey? : Term → Option SortKey
  | .list .array [.text column, .text "ASC"] => some ⟨column, true⟩
  | .list .array [.text column, .text "DESC"] => some ⟨column, false⟩
  | _ => none

theorem sortKey?_sortKeyTerm (key : SortKey) : sortKey? (sortKeyTerm key) = some key := by
  obtain ⟨column, ascending⟩ := key
  cases ascending <;> rfl

def text? : Term → Option String
  | .text value => some value
  | _ => none

def array? {Value : Type} (read : Term → Option Value) : Term → Option (List Value)
  | .list .array items => items.mapM read
  | _ => none

def countTerm (count : Nat) : Term :=
  .word (toString count)

def count? : Term → Option Nat
  | .word digits => some (Nat.ofDigitChars 10 digits.toList 0)
  | _ => none

theorem count?_countTerm (count : Nat) : count? (countTerm count) = some count := by
  rw [countTerm, count?, Nat.toString_eq_repr, Nat.toList_repr, Nat.ofDigitChars_ten_toDigits]

/-- The entry of an object whose value may be missing. -/
def entry (name : String) (term? : Option Term) : List (String × Term) :=
  term?.toList.map fun term => (name, term)

theorem lookup_entry (name other : String) (term? : Option Term) :
    (entry name term?).lookup other = if other = name then term? else none := by
  cases term? with
  | none => simp [entry]
  | some term =>
      by_cases same : other = name
      · simp [entry, same]
      · have apart : (other == name) = false := beq_eq_false_iff_ne.mpr same
        simp [entry, List.lookup_cons, apart, same]

end Sequelize

end OrmCode
