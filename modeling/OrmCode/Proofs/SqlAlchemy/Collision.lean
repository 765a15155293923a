import Mathlib.Data.List.Induction
import OrmCode.Proofs.Code.Refusal
import OrmCode.Proofs.Outcome
import OrmCode.Proofs.Statement.Validity

/-!
# The first column whose attribute is taken

Columns get their attributes one after another, and what is kept of those before is the first
owner of each attribute.  So a list is refused for the first column whose attribute belongs to
another one, and the columns of accepted statements have an attribute each.
-/

namespace OrmCode

namespace SqlAlchemy

variable {table : String} {owners : List (String × String)} {seen before columns : List String}

/-- The first of some columns that has an attribute. -/
def owner? (columns : List String) (name : String) : Option String :=
  columns.find? fun column => Text.pythonIdentifier column == name

/-- A column is the first one whose attribute belongs to another column, its first owner. -/
def IsFirstTaken (columns : List String) (owner column : String) : Prop :=
  ∃ before after, columns = before ++ column :: after ∧ AttributesDiffer before ∧
    owner? before (Text.pythonIdentifier column) = some owner ∧ owner ≠ column

/-- The owners are those of the columns that have got their attributes. -/
def Owns (owners : List (String × String)) (seen : List String) : Prop :=
  ∀ name, owners.lookup name = owner? seen name

theorem owns_nil : Owns [] [] :=
  fun _ => rfl

theorem owner?_concat (columns : List String) (column name : String) :
    owner? (columns ++ [column]) name =
      (owner? columns name).or
        (if Text.pythonIdentifier column = name then some column else none) := by
  rw [owner?, List.find?_append, List.find?_singleton]
  simp only [beq_iff_eq]
  rfl

theorem mem_of_owner? {name owner : String} (owned : owner? columns name = some owner) :
    owner ∈ columns ∧ Text.pythonIdentifier owner = name :=
  ⟨List.mem_of_find?_eq_some owned,
    beq_iff_eq.mp (List.find?_some (p := fun column => Text.pythonIdentifier column == name) owned)⟩

/-- Of different attributes each has one owner. -/
theorem owner?_of_mem (differ : AttributesDiffer columns) {column : String}
    (member : column ∈ columns) : owner? columns (Text.pythonIdentifier column) = some column := by
  cases found : owner? columns (Text.pythonIdentifier column) with
  | none =>
      have unowned := List.find?_eq_none.mp found column member
      simp at unowned
  | some owner =>
      obtain ⟨owns, same⟩ := mem_of_owner? found
      rw [differ owner owns column member same]

/-- A column that owns its attribute already leaves the owners as they are. -/
theorem Owns.concat_of_owned (owns : Owns owners seen) {column owner : String}
    (owned : owners.lookup (Text.pythonIdentifier column) = some owner) :
    Owns owners (seen ++ [column]) := by
  intro name
  rw [owner?_concat, ← owns name]
  split
  · next same =>
      rw [← same, owned]
      rfl
  · rw [Option.or_none]

theorem Owns.concat_of_free (owns : Owns owners seen) {column : String}
    (free : owners.lookup (Text.pythonIdentifier column) = none) :
    Owns ((Text.pythonIdentifier column, column) :: owners) (seen ++ [column]) := by
  intro name
  rw [owner?_concat, ← owns name, List.lookup_cons]
  by_cases same : Text.pythonIdentifier column = name
  · rw [← same, free, if_pos rfl, beq_self_eq_true]
    rfl
  · rw [if_neg same, Option.or_none, beq_eq_false_iff_ne.mpr (Ne.symm same)]

/-- Columns whose attributes differ, also from those before them, get their attributes, and
what follows them is told who owns these. -/
theorem attributesOwned_append (owns : Owns owners seen)
    (differ : AttributesDiffer (seen ++ before)) :
    ∃ later, Owns later (seen ++ before) ∧ ∀ columns,
      attributesOwned table owners (before ++ columns) =
        (attributesOwned table later columns).map (before.map Text.pythonIdentifier ++ ·) := by
  induction before generalizing owners seen with
  | nil =>
      rw [List.append_nil]
      refine ⟨owners, owns, fun columns => ?_⟩
      rw [List.nil_append]
      cases attributesOwned table owners columns <;> rfl
  | cons column before induction =>
      rw [List.append_cons] at differ ⊢
      -- What is done behind the column is the same, whoever owns its attribute.
      have follow : ∀ next, Owns next (seen ++ [column]) →
          (∀ columns, attributesOwned table owners (column :: columns) =
            (attributesOwned table next columns).map (Text.pythonIdentifier column :: ·)) →
          ∃ later, Owns later (seen ++ [column] ++ before) ∧ ∀ columns,
            attributesOwned table owners (column :: before ++ columns) =
              (attributesOwned table later columns).map
                ((column :: before).map Text.pythonIdentifier ++ ·) := by
        intro next nextOwns passes
        obtain ⟨later, laterOwns, rest⟩ := induction nextOwns differ
        refine ⟨later, laterOwns, fun columns => ?_⟩
        rw [List.cons_append, passes, rest]
        cases attributesOwned table later columns <;> rfl
      cases found : owners.lookup (Text.pythonIdentifier column) with
      | none =>
          refine follow _ (owns.concat_of_free found) fun columns => ?_
          rw [attributesOwned, found]
      | some owner =>
          obtain rfl : owner = column := by
            obtain ⟨member, same⟩ := mem_of_owner? (owns _ ▸ found)
            exact differ owner (by simp [member]) column (by simp) same
          refine follow _ (owns.concat_of_owned found) fun columns => ?_
          rw [attributesOwned, found]
          exact if_pos rfl

theorem attributesDiffer_concat {last : String} :
    AttributesDiffer (columns ++ [last]) ↔
      AttributesDiffer columns ∧ ∀ other ∈ columns,
        Text.pythonIdentifier other = Text.pythonIdentifier last → other = last := by
  grind [AttributesDiffer]

/-- Columns that share attributes have a first one that shares its own. -/
theorem exists_isFirstTaken (shared : ¬AttributesDiffer columns) :
    ∃ owner column, IsFirstTaken columns owner column := by
  induction columns using List.reverseRecOn with
  | nil => simp [AttributesDiffer] at shared
  | append_singleton columns last induction =>
      by_cases differ : AttributesDiffer columns
      · have taken : ∃ other ∈ columns,
            Text.pythonIdentifier other = Text.pythonIdentifier last ∧ other ≠ last := by
          by_contra free
          push Not at free
          exact shared (attributesDiffer_concat.mpr ⟨differ, free⟩)
        obtain ⟨owner, member, same, other⟩ := taken
        refine ⟨owner, last, columns, [], rfl, differ, ?_, other⟩
        rw [← same, owner?_of_mem differ member]
      · obtain ⟨owner, column, before, after, rfl, taken⟩ := induction differ
        exact ⟨owner, column, before, after ++ [last], by simp, taken⟩

theorem attributeNames_of_isFirstTaken {owner column : String}
    (first : IsFirstTaken columns owner column) :
    attributeNames table columns = .error (collision table owner column) := by
  obtain ⟨before, after, rfl, differ, owned, other⟩ := first
  obtain ⟨later, owns, passes⟩ := @attributesOwned_append table [] [] before owns_nil differ
  rw [attributeNames, passes, attributesOwned, owns, List.nil_append, owned]
  simp [other, Except.map]

theorem attributeNames_eq_error_iff {fault : Fault} :
    attributeNames table columns = .error fault ↔
      ∃ owner column, IsFirstTaken columns owner column ∧ collision table owner column = fault := by
  constructor
  · intro failed
    obtain ⟨-, passed⟩ | ⟨shared, -⟩ := attributeNames_cases table columns
    · rw [failed] at passed
      cases passed
    · obtain ⟨owner, column, first⟩ := exists_isFirstTaken shared
      refine ⟨owner, column, first, ?_⟩
      rw [attributeNames_of_isFirstTaken first] at failed
      exact Except.error.inj failed
  · rintro ⟨owner, column, first, rfl⟩
    exact attributeNames_of_isFirstTaken first

/-- Columns that are checked to be different and get attributes get different ones. -/
theorem exists_nodup_attributes {other code : String} {checked : Except Statement.Flaw Unit}
    {next : List String → Except Fault String} (distinct : checked = .ok () → columns.Nodup)
    (passed : (checked.mapError Statement.Flaw.fault >>= fun _ =>
      attributeNames other columns >>= next) = .ok code) :
    ∃ names, attributeNames table columns = .ok names ∧ names.Nodup := by
  obtain ⟨_, valid, rest⟩ := Outcome.bind_eq_ok.mp passed
  obtain ⟨names, named, -⟩ := Outcome.bind_eq_ok.mp rest
  have different := distinct (Outcome.mapError_eq_ok.mp valid)
  obtain ⟨differ, -⟩ | ⟨-, owner, column, failed⟩ := attributeNames_cases other columns
  · obtain ⟨-, found⟩ | ⟨shared, -⟩ := attributeNames_cases table columns
    · refine ⟨_, found, different.map_on fun first member second memberToo same => ?_⟩
      exact differ first member second memberToo same
    · exact absurd differ shared
  · rw [named] at failed
    cases failed

/-- The columns that an accepted statement defines or gives values have different attributes. -/
theorem exists_attributes_of_handler {kind : StatementKind} {statement : Statement}
    {context : Context} {code : String} (passed : handler kind statement context = .ok code) :
    ∃ names, attributeNames table statement.writtenColumns = .ok names ∧ names.Nodup := by
  cases statement with
  | create created =>
      cases kind with
      | create => exact exists_nodup_attributes TableDefinition.nodup_of_validate passed
      | _ => cases passed
  | insert inserted =>
      cases kind with
      | insert => exact exists_nodup_attributes Insertion.nodup_of_validate passed
      | _ => cases passed
  | update updated =>
      cases kind with
      | update => exact exists_nodup_attributes Update.nodup_of_validate passed
      | _ => cases passed
  | select _ | delete _ | unsupported _ => exact ⟨[], rfl, List.nodup_nil⟩

/-- Columns get attributes exactly if no two different ones have one identifier, and then each
gets its identifier.  Otherwise they are refused for the first column whose attribute belongs to
another one, its first owner.  So the columns of every accepted statement have an attribute
each. -/
theorem attributeNames_determined (table : String) (columns : List String) :
    ((∃ names, attributeNames table columns = .ok names) ↔
      ∀ first ∈ columns, ∀ second ∈ columns, first ≠ second →
        Text.pythonIdentifier first ≠ Text.pythonIdentifier second) ∧
    (∀ names, attributeNames table columns = .ok names →
      names = columns.map Text.pythonIdentifier) ∧
    (∀ fault, attributeNames table columns = .error fault ↔
      ∃ owner column, IsFirstTaken columns owner column ∧
        .unsupportedConstruct ("columns '" ++ owner ++ "' and '" ++ column ++ "' of " ++ table ++
          " both map to Python attribute '" ++ Text.pythonIdentifier column ++ "'") = fault) ∧
    ∀ kind statement context code, handler kind statement context = .ok code →
      ∃ names, attributeNames table statement.writtenColumns = .ok names ∧ names.Nodup := by
  refine ⟨?_, fun names => attributeNames_eq_ok, fun fault => attributeNames_eq_error_iff, ?_⟩
  · have differ : AttributesDiffer columns ↔ ∀ first ∈ columns, ∀ second ∈ columns,
        first ≠ second → Text.pythonIdentifier first ≠ Text.pythonIdentifier second := by
      simp only [AttributesDiffer, ne_eq, not_imp_not]
    rw [← differ]
    obtain ⟨differ, passed⟩ | ⟨shared, owner, column, failed⟩ := attributeNames_cases table columns
    · exact iff_of_true ⟨_, passed⟩ differ
    · refine iff_of_false ?_ shared
      rintro ⟨names, passed⟩
      rw [failed] at passed
      cases passed
  · exact fun kind statement context code => exists_attributes_of_handler

/-- Of columns that are listed twice and columns that share attributes, the first that shares
its attribute is reported with the first owner. -/
theorem attributeNames_repeatedColumns :
    attributeNames "t" ["c", "a b", "c", "a b", "class", "a_b", "class_", "a-b"] =
        .error (.unsupportedConstruct
          "columns 'a b' and 'a_b' of t both map to Python attribute 'a_b'") ∧
      ∃ names, attributeNames "t" (Statement.writtenColumns
        (.insert ⟨"t", ["a b", "class"], [[.null, .null]]⟩)) = .ok names ∧ names.Nodup := by
  obtain ⟨-, -, failed, accepted⟩ := attributeNames_determined "t"
    ["c", "a b", "c", "a b", "class", "a_b", "class_", "a-b"]
  have accepts : handler .insert (.insert ⟨"t", ["a b", "class"], [[.null, .null]]⟩)
      ⟨.sqlAlchemy, {}⟩ = .ok "session.add(t(a_b=None, class_=None))\nsession.commit()" := by
    decide +kernel
  refine ⟨(failed _).mpr ⟨"a b", "a_b", ?_, rfl⟩, accepted _ _ _ _ accepts⟩
  refine ⟨["c", "a b", "c", "a b", "class"], ["class_", "a-b"], rfl, ?_, by decide, by decide⟩
  unfold AttributesDiffer
  decide

end SqlAlchemy

end OrmCode
