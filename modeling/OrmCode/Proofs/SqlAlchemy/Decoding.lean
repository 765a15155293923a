import OrmCode.Proofs.SqlAlchemy.Calls

/-!
# Decoding generated queries

The code of an insertion, a query, an update or a deletion determines the statement
up to the names that identifiers stand for and to groups of one operand.
-/

namespace OrmCode

namespace SqlAlchemy

/-- The statement over classes and attributes that some code stands for. -/
def decode (code : String) : Option Statement :=
  ((Python.terms? code).bind (·.mapM called?)).bind statementOf?

theorem isName_pythonIdentifier (name : String) : isName (Text.pythonIdentifier name) = true := by
  rw [isName, List.all_eq_true]
  intro character member
  have continues := Text.continues_identifierAvoiding Text.pythonReserved name character member
  rw [bne_iff_ne]
  rintro rfl
  revert continues
  decide

theorem readableFilter_canonical {filter? : Option Filter}
    (plain : ∀ value ∈ filter?.toList.flatMap Filter.literals, value.isPlain = true) :
    ReadableFilter (filter?.map canonicalFilter) := by
  cases filter? with
  | none => simp [ReadableFilter]
  | some filter =>
      have plainFilter := Sequelize.plain_of_toList plain filter rfl
      intro canonical same leaf member
      obtain rfl := Option.some.inj same
      rw [canonicalFilter, Filter.leaves_collapsed, Filter.leaves_renamed] at member
      obtain ⟨original, listed, rfl⟩ := List.mem_map.mp member
      refine ⟨isName_pythonIdentifier original.column, fun value given => ?_⟩
      exact plainFilter value (List.mem_flatMap_of_mem listed given)

theorem readableValue_canonical {updated : Update}
    (plain : ∀ value ∈ (Statement.update updated).values, value.isPlain = true) :
    ∀ assignment ∈ updated.assignments, ReadableValue (canonicalValue assignment.value) := by
  intro ⟨column, value⟩ member
  cases value with
  | literal given => exact plain given (List.mem_map.mpr ⟨_, member, rfl⟩)
  | changed changed change amount =>
      exact ⟨isName_pythonIdentifier changed, plain amount (List.mem_map.mpr ⟨_, member, rfl⟩)⟩

/-- Generated code that defines no table is a chain of the calls of the canonical
statement, and these can be read. -/
theorem isChain_of_generate {settings : Settings} {statement : Statement} {code : String}
    (noTable : ∀ definition, statement ≠ .create definition) (plain : statement.isPlain = true)
    (generated : HandlerTable.complete.generate settings statement .sqlAlchemy = .ok code) :
    IsChain code (calls (canonical statement)) ∧ Legible (canonical statement) := by
  rw [Statement.isPlain, List.all_append, Bool.and_eq_true, List.all_eq_true,
    List.all_eq_true] at plain
  obtain ⟨plainValues, plainFilter⟩ := plain
  cases statement with
  | create definition => exact absurd rfl (noTable definition)
  | unsupported name => cases generated
  | insert inserted =>
      have plainRows : ∀ row ∈ inserted.rows, ∀ value ∈ row, value.isPlain = true :=
        fun row member value listed => plainValues value (List.mem_flatten_of_mem member listed)
      obtain ⟨_, passed, -⟩ := Outcome.bind_eq_ok.mp (generated : insertion inserted = .ok code)
      have valid := Outcome.mapError_eq_ok.mp passed
      have something := Insertion.rows_ne_nil_of_validate valid
      refine ⟨isChain_insertion plainRows generated, something, ?_⟩
      intro row member
      have fits := Insertion.length_of_validate valid member
      exact ⟨fits.trans (List.length_map _).symm, plainRows row member⟩
  | select selected =>
      have order : ∀ key ∈ selected.order.map canonicalKey, isName key.column = true := by
        intro key member
        obtain ⟨original, -, rfl⟩ := List.mem_map.mp member
        exact isName_pythonIdentifier original.column
      have columns : ∀ column ∈ selected.columns.map Text.pythonIdentifier,
          isName column = true := by
        intro column member
        obtain ⟨original, -, rfl⟩ := List.mem_map.mp member
        exact isName_pythonIdentifier original
      exact ⟨isChain_selection plainFilter generated, isName_pythonIdentifier _, columns,
        readableFilter_canonical plainFilter, order⟩
  | update updated =>
      have readable := readableValue_canonical plainValues
      refine ⟨isChain_modification plainFilter readable generated, isName_pythonIdentifier _,
        readableFilter_canonical plainFilter, ?_⟩
      intro assignment member
      obtain ⟨original, listed, rfl⟩ := List.mem_map.mp member
      exact readable original listed
  | delete deleted =>
      exact ⟨isChain_deletion plainFilter generated, isName_pythonIdentifier _,
        readableFilter_canonical plainFilter⟩

/-- Generated code that defines no table is decoded to its statement over classes and
attributes, with a filter exactly when the statement has one.  Every row of a decoded
insertion has a value for each of its columns. -/
theorem decode_eq_canonical {settings : Settings} {statement : Statement} {code : String}
    (noTable : ∀ definition, statement ≠ .create definition) (plain : statement.isPlain = true)
    (generated : HandlerTable.complete.generate settings statement .sqlAlchemy = .ok code) :
    decode code = some (canonical statement) ∧
      ((decode code).bind Statement.filter?).isSome = statement.filter?.isSome ∧
      ∀ inserted, decode code = some (.insert inserted) →
        ∀ row ∈ inserted.rows, row.length = inserted.columns.length := by
  obtain ⟨chain, legible⟩ := isChain_of_generate noTable plain generated
  have decoded : decode code = some (canonical statement) := by
    rw [decode, chain.mapM_called?, Option.bind_some, statementOf?_calls legible]
  refine ⟨decoded, ?_, ?_⟩
  · rw [decoded, Option.bind_some, isSome_filter?_canonical]
  · intro inserted found row member
    rw [Option.some.inj (decoded.symm.trans found)] at legible
    exact (legible.2 row member).1

/-- A query whose names and texts are full of signs of the code. -/
def signedSelection : Statement :=
  .select {
    table := "class"
    columns := ["a b"]
    filter? := some (.negation (.group .disjunction [
      .comparison ⟨"it's", .other "@> ')", .list [.number "-1.5e+3", .null]⟩,
      .group .conjunction [.compare "n" .like (.string "x') == ('y\n")]]))
    order := [⟨"n", false⟩]
    limit? := some 10 }

def signedQuery : String :=
  "session.query(class_.a_b).filter(not_(or_(class_.it_s.op('@> \x5c')')([-1.5e+3, None]), " ++
    "class_.n.like('x\x5c') == (\x5c'y\x5cn')))).order_by(class_.n.desc()).limit(10).all()"

theorem decode_signedQuery :
    signedSelection.isPlain = true ∧
      HandlerTable.complete.generate { unknownOperators := .lenient } signedSelection
        .sqlAlchemy = .ok signedQuery ∧
      decode signedQuery = some (canonical signedSelection) := by
  have noTable : ∀ definition, signedSelection ≠ .create definition := by
    rintro definition ⟨⟩
  have plain : signedSelection.isPlain = true := by decide +kernel
  have generated : HandlerTable.complete.generate { unknownOperators := .lenient }
      signedSelection .sqlAlchemy = .ok signedQuery := by decide +kernel
  exact ⟨plain, generated, (decode_eq_canonical noTable plain generated).1⟩

end SqlAlchemy

end OrmCode
