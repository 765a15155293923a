import OrmCode.Proofs.Statement.Validity

/-!
# The flaw that a statement is refused for

A statement is refused exactly if it is not valid, and of several flaws always the
same one is reported: a row of the wrong length before no rows at all, an empty list
before a name listed twice, and of several repeated names the one that comes first.
-/

namespace OrmCode

/-- A name is the first that equals an earlier one up to letter case. -/
def IsFirstRepeated (names : List String) (name : String) : Prop :=
  ∃ before after, names = before ++ name :: after ∧ (before.map Text.lower).Nodup ∧
    Text.lower name ∈ before.map Text.lower

/-- The first repeated name stands behind different ones that were not seen before,
and was seen before or is one of them. -/
theorem firstRepeated?_eq_some_iff {seen names : List String} {name : String} :
    firstRepeated? seen names = some name ↔
      ∃ before after, names = before ++ name :: after ∧ firstRepeated? seen before = none ∧
        (Text.lower name ∈ seen ∨ Text.lower name ∈ before.map Text.lower) := by
  induction names generalizing seen with
  | nil => simp [firstRepeated?]
  | cons first names induction =>
      rw [firstRepeated?]
      constructor
      · intro found
        split at found
        · next repeated =>
            obtain rfl := Option.some.inj found
            exact ⟨[], names, rfl, rfl, .inl (List.contains_iff_mem.mp repeated)⟩
        · next new =>
            obtain ⟨before, after, rfl, different, known⟩ := induction.mp found
            refine ⟨first :: before, after, rfl, ?_, ?_⟩
            · rw [firstRepeated?, if_neg new, different]
            · rw [List.mem_cons] at known
              rw [List.map_cons, List.mem_cons]
              tauto
      · rintro ⟨before, after, split, different, known⟩
        cases before with
        | nil =>
            obtain ⟨rfl, rfl⟩ := List.cons.inj split
            have repeated : Text.lower first ∈ seen := by simpa using known
            rw [if_pos (List.contains_iff_mem.mpr repeated)]
        | cons earlier before =>
            obtain ⟨rfl, rfl⟩ := List.cons.inj split
            rw [firstRepeated?] at different
            split at different
            · cases different
            · next new =>
                rw [List.map_cons, List.mem_cons] at known
                rw [if_neg new]
                refine induction.mpr ⟨before, after, rfl, different, ?_⟩
                rw [List.mem_cons]
                tauto

theorem firstRepeated?_nil_eq_some_iff {names : List String} {name : String} :
    firstRepeated? [] names = some name ↔ IsFirstRepeated names name := by
  simp [firstRepeated?_eq_some_iff, firstRepeated?_eq_none_iff, IsFirstRepeated]

theorem checkDistinct_eq_error_iff {clause table : String} {columns : List String}
    {flaw : Statement.Flaw} :
    checkDistinct clause table columns = .error flaw ↔
      ∃ column, IsFirstRepeated columns column ∧ .duplicate column clause table = flaw := by
  simp only [← firstRepeated?_nil_eq_some_iff]
  unfold checkDistinct
  cases firstRepeated? [] columns <;> simp

namespace Statement

/-- The fault of a name that is listed twice. -/
def repeated (column clause table : String) : Fault :=
  .unsupportedConstruct ("duplicate column '" ++ column ++ "' in " ++ clause ++ " " ++ table)

/-- What is asked of a statement, whatever its target: something is created, inserted or
updated, every row has a value for each column, and no two columns have the same name
up to letter case. -/
def IsValid : Statement → Prop
  | create definition =>
    definition.columns ≠ [] ∧ ((definition.columns.map Column.name).map Text.lower).Nodup
  | insert inserted =>
    inserted.rows ≠ [] ∧ (∀ row ∈ inserted.rows, row.length = inserted.columns.length) ∧
      (inserted.columns.map Text.lower).Nodup
  | update updated =>
    updated.assignments ≠ [] ∧
      ((updated.assignments.map Assignment.column).map Text.lower).Nodup
  | _ => True

/-- The fault of a statement that is not valid. -/
inductive IsRefusedFor : Statement → Fault → Prop
  | noColumns {table : String} :
    IsRefusedFor (.create ⟨table, []⟩)
      (.unsupportedConstruct ("CREATE TABLE " ++ table ++ " has no column definitions"))
  | repeatedDefinition {definition : TableDefinition} {column : String}
      (first : IsFirstRepeated (definition.columns.map Column.name) column) :
    IsRefusedFor (.create definition) (repeated column "CREATE TABLE" definition.table)
  | rowLength {inserted : Insertion} {before after : List (List Literal)} {row : List Literal}
      (rows : inserted.rows = before ++ row :: after)
      (fit : ∀ earlier ∈ before, earlier.length = inserted.columns.length)
      (misfit : row.length ≠ inserted.columns.length) :
    IsRefusedFor (.insert inserted) (.countMismatch inserted.columns.length row.length)
  | noRows {table : String} {columns : List String} :
    IsRefusedFor (.insert ⟨table, columns, []⟩)
      (.unsupportedConstruct "INSERT requires at least one VALUES row")
  | repeatedInsertion {inserted : Insertion} {column : String} (something : inserted.rows ≠ [])
      (fit : ∀ row ∈ inserted.rows, row.length = inserted.columns.length)
      (first : IsFirstRepeated inserted.columns column) :
    IsRefusedFor (.insert inserted) (repeated column "INSERT INTO" inserted.table)
  | noAssignments {table : String} {filter? : Option Filter} :
    IsRefusedFor (.update ⟨table, [], filter?⟩)
      (.unsupportedConstruct "UPDATE requires at least one SET assignment")
  | repeatedAssignment {updated : Update} {column : String}
      (first : IsFirstRepeated (updated.assignments.map Assignment.column) column) :
    IsRefusedFor (.update updated) (repeated column "UPDATE" updated.table)

end Statement

theorem IsFirstRepeated.ne_nil {names : List String} {name : String}
    (first : IsFirstRepeated names name) : names ≠ [] := by
  obtain ⟨before, after, rfl, -⟩ := first
  simp

/-- A list of named items that must not be empty passes if it is not and its names differ. -/
theorem unlessEmpty_eq_ok_iff {Item : Type} {items : List Item} {name : Item → String}
    {empty : Statement.Flaw} {clause table : String} :
    (if items.isEmpty then .error empty else checkDistinct clause table (items.map name)) =
        .ok () ↔
      items ≠ [] ∧ ((items.map name).map Text.lower).Nodup := by
  cases items with
  | nil => simp
  | cons first items => simp [checkDistinct_eq_ok_iff]

theorem unlessEmpty_eq_error_iff {Item : Type} {items : List Item} {name : Item → String}
    {empty flaw : Statement.Flaw} {clause table : String} :
    (if items.isEmpty then .error empty else checkDistinct clause table (items.map name)) =
        .error flaw ↔
      items = [] ∧ empty = flaw ∨
        ∃ column, IsFirstRepeated (items.map name) column ∧
          .duplicate column clause table = flaw := by
  cases items with
  | nil =>
      have noName : ∀ column, ¬IsFirstRepeated [] column := fun column first => first.ne_nil rfl
      simp [noName]
  | cons first items => simp [checkDistinct_eq_error_iff]

namespace TableDefinition

variable {definition : TableDefinition}

theorem validate_eq_ok_iff :
    definition.validate = .ok () ↔ (Statement.create definition).IsValid :=
  unlessEmpty_eq_ok_iff

theorem isRefusedFor_iff {fault : Fault} :
    (Statement.create definition).IsRefusedFor fault ↔
      ∃ flaw, definition.validate = .error flaw ∧ flaw.fault = fault := by
  obtain ⟨table, columns⟩ := definition
  simp only [validate, unlessEmpty_eq_error_iff]
  constructor
  · intro refused
    cases refused with
    | noColumns => exact ⟨_, .inl ⟨rfl, rfl⟩, rfl⟩
    | repeatedDefinition first => exact ⟨_, .inr ⟨_, first, rfl⟩, rfl⟩
  · rintro ⟨flaw, ⟨rfl, rfl⟩ | ⟨column, first, rfl⟩, rfl⟩
    · exact .noColumns
    · exact .repeatedDefinition first

end TableDefinition

namespace Update

variable {updated : Update}

theorem validate_eq_ok_iff : updated.validate = .ok () ↔ (Statement.update updated).IsValid :=
  unlessEmpty_eq_ok_iff

theorem isRefusedFor_iff {fault : Fault} :
    (Statement.update updated).IsRefusedFor fault ↔
      ∃ flaw, updated.validate = .error flaw ∧ flaw.fault = fault := by
  obtain ⟨table, assignments, filter?⟩ := updated
  simp only [validate, unlessEmpty_eq_error_iff]
  constructor
  · intro refused
    cases refused with
    | noAssignments => exact ⟨_, .inl ⟨rfl, rfl⟩, rfl⟩
    | repeatedAssignment first => exact ⟨_, .inr ⟨_, first, rfl⟩, rfl⟩
  · rintro ⟨flaw, ⟨rfl, rfl⟩ | ⟨column, first, rfl⟩, rfl⟩
    · exact .noAssignments
    · exact .repeatedAssignment first

end Update

namespace Insertion

variable {inserted : Insertion}

/-- The first row of the wrong length is reported, whatever else is wrong. -/
theorem validate_of_misfit {before after : List (List Literal)} {row : List Literal}
    (rows : inserted.rows = before ++ row :: after)
    (fit : ∀ earlier ∈ before, earlier.length = inserted.columns.length)
    (misfit : row.length ≠ inserted.columns.length) :
    inserted.validate = .error (.rowLength inserted.columns.length row.length) := by
  have found : inserted.rows.find? (fun row => row.length != inserted.columns.length) =
      some row := by
    refine List.find?_eq_some_iff_append.mpr
      ⟨bne_iff_ne.mpr misfit, before, after, rows, fun earlier member => ?_⟩
    simpa using fit earlier member
  rw [validate, found]

/-- Where all rows fit, no rows are reported before a column that is listed twice. -/
theorem validate_of_fit (fit : ∀ row ∈ inserted.rows, row.length = inserted.columns.length) :
    inserted.validate =
      if inserted.rows.isEmpty then .error .noRows
      else checkDistinct "INSERT INTO" inserted.table inserted.columns := by
  have noMisfit : inserted.rows.find? (fun row => row.length != inserted.columns.length) =
      none := by
    simpa using fit
  rw [validate, noMisfit]

/-- Either all rows fit, or one of them is the first that does not. -/
theorem fit_or_misfit (inserted : Insertion) :
    (∀ row ∈ inserted.rows, row.length = inserted.columns.length) ∨
      ∃ before row after, inserted.rows = before ++ row :: after ∧
        (∀ earlier ∈ before, earlier.length = inserted.columns.length) ∧
        row.length ≠ inserted.columns.length := by
  cases found : inserted.rows.find? fun row => row.length != inserted.columns.length with
  | none => exact .inl (by simpa using found)
  | some row =>
      obtain ⟨misfit, before, after, rows, fit⟩ := List.find?_eq_some_iff_append.mp found
      exact .inr ⟨before, row, after, rows, by simpa using fit, bne_iff_ne.mp misfit⟩

theorem validate_eq_ok_iff :
    inserted.validate = .ok () ↔ (Statement.insert inserted).IsValid := by
  rw [Statement.IsValid]
  obtain fit | ⟨before, row, after, rows, fit, misfit⟩ := inserted.fit_or_misfit
  · rw [validate_of_fit fit]
    by_cases nothing : inserted.rows = []
    · simp [nothing]
    · rw [if_neg (mt List.isEmpty_iff.mp nothing), checkDistinct_eq_ok_iff]
      exact ⟨fun distinct => ⟨nothing, fit, distinct⟩, fun valid => valid.2.2⟩
  · rw [validate_of_misfit rows fit misfit]
    refine iff_of_false nofun fun valid => misfit (valid.2.1 row ?_)
    rw [rows]
    exact List.mem_append_right before List.mem_cons_self

theorem isRefusedFor_iff {fault : Fault} :
    (Statement.insert inserted).IsRefusedFor fault ↔
      ∃ flaw, inserted.validate = .error flaw ∧ flaw.fault = fault := by
  constructor
  · intro refused
    cases refused with
    | rowLength rows fit misfit => exact ⟨_, validate_of_misfit rows fit misfit, rfl⟩
    | noRows => exact ⟨_, rfl, rfl⟩
    | @repeatedInsertion _ column something fit first =>
        refine ⟨.duplicate column "INSERT INTO" inserted.table, ?_, rfl⟩
        rw [validate_of_fit fit, if_neg (mt List.isEmpty_iff.mp something)]
        exact checkDistinct_eq_error_iff.mpr ⟨column, first, rfl⟩
  · rintro ⟨flaw, refused, rfl⟩
    obtain fit | ⟨before, row, after, rows, fit, misfit⟩ := inserted.fit_or_misfit
    · rw [validate_of_fit fit] at refused
      split at refused
      · next nothing =>
          obtain ⟨table, columns, rows⟩ := inserted
          obtain rfl : rows = [] := List.isEmpty_iff.mp nothing
          obtain rfl := Except.error.inj refused
          exact .noRows
      · next something =>
          obtain ⟨column, first, rfl⟩ := checkDistinct_eq_error_iff.mp refused
          exact .repeatedInsertion (mt List.isEmpty_iff.mpr something) fit first
    · rw [validate_of_misfit rows fit misfit] at refused
      obtain rfl := Except.error.inj refused
      exact .rowLength rows fit misfit

end Insertion

namespace Statement

/-- A statement passes exactly if it is valid, and its fault is determined by its flaws. -/
theorem validate_determined (statement : Statement) :
    (statement.validate = .ok () ↔ statement.IsValid) ∧
      ∀ fault, statement.validate.mapError Flaw.fault = .error fault ↔
        statement.IsRefusedFor fault := by
  have mapped : ∀ fault, statement.validate.mapError Flaw.fault = .error fault ↔
      ∃ flaw, statement.validate = .error flaw ∧ flaw.fault = fault := by
    intro fault
    cases statement.validate <;> simp [Except.mapError]
  simp only [mapped]
  cases statement with
  | create definition =>
      exact ⟨TableDefinition.validate_eq_ok_iff, fun _ => TableDefinition.isRefusedFor_iff.symm⟩
  | insert inserted =>
      exact ⟨Insertion.validate_eq_ok_iff, fun _ => Insertion.isRefusedFor_iff.symm⟩
  | update updated =>
      exact ⟨Update.validate_eq_ok_iff, fun _ => Update.isRefusedFor_iff.symm⟩
  | select _ | delete _ | unsupported _ =>
      refine ⟨iff_of_true rfl trivial, fun fault => iff_of_false ?_ nofun⟩
      rintro ⟨flaw, refused, -⟩
      cases refused

/-- A short row is reported before two columns of one name. -/
example : (insert ⟨"t", ["a", "A"], [[.null, .null], [.null]]⟩).validate =
    .error (.rowLength 2 1) := rfl

end Statement

end OrmCode
