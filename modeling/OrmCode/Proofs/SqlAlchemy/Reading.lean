import OrmCode.Proofs.Javascript.Term
import OrmCode.Proofs.Outcome
import OrmCode.Proofs.SqlAlchemy.Canonical
import OrmCode.Proofs.Text.Split

/-!
# Reading filters

A filter over a class and its attributes is one or more terms.  It is read back from
them, whatever terms follow.
-/

namespace OrmCode

namespace SqlAlchemy

open Javascript (Term)
open Outcome (mapM_map_eq_some)

def literalTerm : Literal → Term
  | .string value => .text value
  | .number numeral => .word numeral
  | .boolean true => .word "True"
  | .boolean false => .word "False"
  | .null => .word "None"

def literal? : Term → Option Literal
  | .text value => some (.string value)
  | .word "True" => some (.boolean true)
  | .word "False" => some (.boolean false)
  | .word "None" => some .null
  | .word numeral => some (.number numeral)
  | .list _ _ => none

theorem literal?_literalTerm {value : Literal} (plain : value.isPlain = true) :
    literal? (literalTerm value) = some value := by
  cases value with
  | number numeral =>
      have different : ∀ name : String, Text.isNumeral name = false → numeral ≠ name := by
        rintro name refused rfl
        rw [Literal.isPlain, refused] at plain
        cases plain
      rw [literalTerm, literal?]
      · exact different "True" (by decide)
      · exact different "False" (by decide)
      · exact different "None" (by decide)
  | boolean value => cases value <;> rfl
  | _ => rfl

def operandTerm : Operand → Term
  | .single value => literalTerm value
  | .list values => .list .array (values.map literalTerm)

def operand? : Term → Option Operand
  | .list .array items => (items.mapM literal?).map .list
  | term => (literal? term).map .single

theorem operand?_operandTerm {operand : Operand}
    (plain : ∀ value ∈ operand.literals, value.isPlain = true) :
    operand? (operandTerm operand) = some operand := by
  cases operand with
  | single value =>
      have here := literal?_literalTerm (plain value List.mem_cons_self)
      rw [operandTerm, operand?]
      · rw [here]
        rfl
      · intro items same
        rw [same] at here
        cases here
  | list values =>
      have each : (values.map literalTerm).mapM literal? = some values :=
        mapM_map_eq_some fun value member => literal?_literalTerm (plain value member)
      rw [operandTerm, operand?, each]
      rfl

def path (names : List String) : String :=
  ".".intercalate names

def components (path : String) : List String :=
  Text.split (· == '.') path

/-- Whether a text is a name in a path. -/
def isName (text : String) : Bool :=
  text.toList.all (· != '.')

/-- The names of a path are found again. -/
theorem components_path {names : List String} (something : names ≠ [])
    (each : ∀ name ∈ names, isName name = true) : components (path names) = names := by
  apply @Text.split_intercalate _ '.' (by decide) _ something
  intro name member character listed
  have apart := List.all_eq_true.mp (each name member) character listed
  simpa using apart

theorem components_name {name : String} (isName : isName name = true) :
    components name = [name] := by
  have single : path [name] = name := String.intercalate_singleton
  rw [← single]
  exact components_path (List.cons_ne_nil _ _) (by simpa [single] using isName)

theorem components_attribute {model column : String} (modelName : isName model = true)
    (columnName : isName column = true) : components (path [model, column]) = [model, column] :=
  components_path (List.cons_ne_nil _ _) (by simp [modelName, columnName])

theorem components_method {model column method : String} (modelName : isName model = true)
    (columnName : isName column = true) (methodName : isName method = true) :
    components (path [model, column, method]) = [model, column, method] :=
  components_path (List.cons_ne_nil _ _) (by simp [modelName, columnName, methodName])

def column? (path : String) : Option String :=
  match components path with
  | [_, column] => some column
  | _ => none

def comparator? (form : OperatorForm) : Option Comparator :=
  [.equal, .different, .greater, .atLeast, .less, .atMost, .like, .notLike, .among, .notAmong,
    .identical, .notIdentical].find? fun comparator => operatorForm? comparator == some form

theorem comparator?_of_operatorForm? {comparator : Comparator} {form : OperatorForm}
    (written : operatorForm? comparator = some form) : comparator? form = some comparator := by
  cases comparator <;> cases written <;> decide

def connective? (function : String) : Option Connective :=
  [.conjunction, .disjunction].find? fun connective => connectiveFunction connective == function

/-- What a called function is within a filter. -/
inductive Callee
  | group (connective : Connective)
  | negation
  | operator (column : String)
  | method (column name : String)

def callee? (function : String) : Option Callee :=
  match components function with
  | ["not_"] => some .negation
  | [name] => (connective? name).map .group
  | [_, column, "op"] => some (.operator column)
  | [_, column, name] => some (.method column name)
  | _ => none

/-- The filters that some terms are made of, one after the other. -/
def filtersOf? : List Term → Option (List Filter)
  | [] => some []
  | .word path :: .word operator :: operand :: rest => do
    let leaf := ⟨← column? path, ← comparator? (.between operator), ← operand? operand⟩
    return .comparison leaf :: (← filtersOf? rest)
  | .list (.call function) arguments :: rest => do
    match ← callee? function, arguments, rest with
    | .group connective, arguments, rest =>
      return .group connective (← filtersOf? arguments) :: (← filtersOf? rest)
    | .negation, arguments, rest =>
      return .negation (← (← filtersOf? arguments).head?) :: (← filtersOf? rest)
    | .operator column, [.text token], .list (.call "") [operand] :: rest =>
      return .comparison ⟨column, .other token, ← operand? operand⟩ :: (← filtersOf? rest)
    | .method column name, [operand], rest =>
      let leaf := ⟨column, ← comparator? (.method name), ← operand? operand⟩
      return .comparison leaf :: (← filtersOf? rest)
    | _, _, _ => none
  | _ => none

def comparisonTerms (model : String) (leaf : Comparison) : List Term :=
  match operatorForm? leaf.comparator with
  | some (.between token) =>
    [.word (path [model, leaf.column]), .word token, operandTerm leaf.operand]
  | some (.method name) =>
    [.list (.call (path [model, leaf.column, name])) [operandTerm leaf.operand]]
  | none =>
    [.list (.call (path [model, leaf.column, "op"])) [.text leaf.comparator.sql],
      .list (.call "") [operandTerm leaf.operand]]

def filterTerms (model : String) : Filter → List Term
  | .comparison leaf => comparisonTerms model leaf
  | .group connective operands =>
    [.list (.call (connectiveFunction connective)) (operands.flatMap (filterTerms model))]
  | .negation operand => [.list (.call "not_") (filterTerms model operand)]

theorem callee?_connectiveFunction (connective : Connective) :
    callee? (connectiveFunction connective) = some (.group connective) := by
  have name : isName (connectiveFunction connective) = true := by cases connective <;> decide
  rw [callee?, components_name name]
  cases connective <;> rfl

theorem callee?_operator {model column : String} (modelName : isName model = true)
    (columnName : isName column = true) :
    callee? (path [model, column, "op"]) = some (.operator column) := by
  rw [callee?, components_method modelName columnName (by decide)]
  simp

theorem callee?_method {model column name : String} (modelName : isName model = true)
    (columnName : isName column = true) {comparator : Comparator}
    (written : operatorForm? comparator = some (.method name)) :
    callee? (path [model, column, name]) = some (.method column name) := by
  have methodName : isName name = true := by cases comparator <;> cases written <;> decide
  have notOperator : name ≠ "op" := by
    rintro rfl
    cases comparator <;> simp [operatorForm?] at written
  rw [callee?, components_method modelName columnName methodName]
  split <;> simp_all

def Readable (leaf : Comparison) : Prop :=
  isName leaf.column = true ∧ ∀ value ∈ leaf.operand.literals, value.isPlain = true

theorem filtersOf?_comparisonTerms {model : String} (modelName : isName model = true)
    {leaf : Comparison} (readable : Readable leaf) (rest : List Term) :
    filtersOf? (comparisonTerms model leaf ++ rest) =
      (filtersOf? rest).map (.comparison leaf :: ·) := by
  obtain ⟨columnName, plain⟩ := readable
  have compared := operand?_operandTerm plain
  unfold comparisonTerms
  split
  · next token written =>
      have operator := comparator?_of_operatorForm? written
      have column : column? (path [model, leaf.column]) = some leaf.column := by
        rw [column?, components_attribute modelName columnName]
      rw [List.cons_append, List.cons_append, List.cons_append, List.nil_append, filtersOf?,
        column, operator, compared]
      cases filtersOf? rest <;> rfl
  · next name written =>
      have operator := comparator?_of_operatorForm? written
      have callee := callee?_method modelName columnName written
      rw [List.cons_append, List.nil_append, filtersOf?, callee]
      simp only [Option.bind_eq_bind, Option.bind_some, operator, compared]
      cases filtersOf? rest <;> rfl
  · next unwritten =>
      have callee := callee?_operator modelName columnName
      obtain ⟨column, comparator, operand⟩ := leaf
      cases comparator with
      | other token =>
          rw [List.cons_append, List.cons_append, List.nil_append, filtersOf?, callee]
          simp only [Option.bind_eq_bind, Option.bind_some, Comparator.sql, compared]
          cases filtersOf? rest <;> rfl
      | _ => cases unwritten

theorem filtersOf?_flatMap {make : Filter → List Term} {filters : List Filter}
    (each : ∀ filter ∈ filters, ∀ rest,
      filtersOf? (make filter ++ rest) = (filtersOf? rest).map (filter :: ·)) :
    filtersOf? (filters.flatMap make) = some filters := by
  induction filters with
  | nil => rw [List.flatMap_nil, filtersOf?]
  | cons filter filters induction =>
      obtain ⟨here, later⟩ := List.forall_mem_cons.mp each
      rw [List.flatMap_cons, here, induction later, Option.map_some]

/-- A filter is read back from its terms, whatever follows. -/
theorem filtersOf?_filterTerms {model : String} (modelName : isName model = true)
    {filter : Filter} (readable : ∀ leaf ∈ filter.leaves, Readable leaf) (rest : List Term) :
    filtersOf? (filterTerms model filter ++ rest) = (filtersOf? rest).map (filter :: ·) := by
  induction filter generalizing rest with
  | comparison leaf =>
      rw [filterTerms]
      exact filtersOf?_comparisonTerms modelName (readable leaf List.mem_cons_self) rest
  | group connective operands induction =>
      rw [Filter.leaves_group] at readable
      have each : filtersOf? (operands.flatMap (filterTerms model)) = some operands :=
        filtersOf?_flatMap fun operand member following =>
          induction operand member
            (fun leaf listed => readable leaf (List.mem_flatMap_of_mem member listed)) following
      rw [filterTerms, List.cons_append, List.nil_append, filtersOf?,
        callee?_connectiveFunction]
      simp only [Option.bind_eq_bind, Option.bind_some, each]
      cases filtersOf? rest <;> rfl
  | negation operand induction =>
      rw [Filter.leaves] at readable
      have negated := induction readable []
      have callee : callee? "not_" = some .negation := by
        rw [callee?, components_name (by decide)]
        rfl
      rw [List.append_nil, filtersOf?, Option.map_some] at negated
      rw [filterTerms, List.cons_append, List.nil_append, filtersOf?, callee]
      simp only [Option.bind_eq_bind, Option.bind_some, negated, List.head?_cons]
      cases filtersOf? rest <;> rfl

end SqlAlchemy

end OrmCode
