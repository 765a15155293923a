import OrmCode.Proofs.Reference.Model
import OrmCode.Proofs.Text.Reserved

/-!
# Names and keywords of Python

A class or an attribute is an identifier of Python and no keyword.  The definition of a class
gives the name of a column beside its attribute exactly if the name is none of these.
-/

namespace OrmCode

namespace Text

/-- The keywords of Python 3: its three values, the operators that are words, functions and
classes, loops and branches, exceptions and contexts, and what binds or unbinds names. -/
def pythonKeywords : List String :=
  ["None", "True", "False"] ++
  ["and", "or", "not", "in", "is"] ++
  ["def", "lambda", "return", "yield", "async", "await", "class"] ++
  ["if", "elif", "else", "while", "for", "break", "continue", "pass"] ++
  ["try", "except", "finally", "raise", "assert", "with"] ++
  ["import", "from", "as", "global", "nonlocal", "del"]

/-- The words that identifiers of Python avoid are its keywords, all of them. -/
theorem pythonReserved_perm : pythonReserved.Perm pythonKeywords := by
  decide +kernel

theorem pythonReserved_apart : ∀ word ∈ pythonReserved, word ++ "_" ∉ pythonReserved := by
  decide +kernel

/-- A name that is an identifier of Python and no keyword. -/
def IsPythonName (name : String) : Prop :=
  isIdentifier name = true ∧ name ∉ pythonKeywords

instance (name : String) : Decidable (IsPythonName name) :=
  inferInstanceAs (Decidable (_ ∧ _))

theorem isPythonName_pythonIdentifier (name : String) : IsPythonName (pythonIdentifier name) := by
  refine ⟨isIdentifier_identifierAvoiding _ name, ?_⟩
  rw [← pythonReserved_perm.mem_iff]
  exact identifierAvoiding_not_mem pythonReserved_apart

theorem pythonIdentifier_eq_self_iff {name : String} :
    pythonIdentifier name = name ↔ IsPythonName name := by
  rw [IsPythonName, ← pythonReserved_perm.mem_iff]
  exact identifierAvoiding_eq_self_iff

end Text

namespace SqlAlchemy

/-- The field of a column in a class: its attribute, the name of the column if this is no name of
Python, and what else is said about the column. -/
def namedField (column : Column) : DeclaredField where
  name := Text.pythonIdentifier column.name
  explicit? := if Text.IsPythonName column.name then none else some column.name
  arguments := Target.sqlAlchemy.fieldArguments column

theorem declaredField_eq_namedField (column : Column) :
    Target.sqlAlchemy.declaredField column = namedField column := by
  simp only [namedField, Target.declaredField, Target.fieldName, Text.pythonIdentifier_eq_self_iff]

end SqlAlchemy

namespace Text

/-- The class or attribute that stands for a name is an identifier of Python and no keyword.  It
stands for itself, and a name is kept exactly if it is such an identifier.  So the definition of
a class gives the names of all other columns explicitly, and of no others. -/
theorem pythonIdentifier_determined (name : String) :
    pythonIdentifier name ≠ "" ∧
    IsPythonName (pythonIdentifier name) ∧
    pythonIdentifier (pythonIdentifier name) = pythonIdentifier name ∧
    (pythonIdentifier name = name ↔ IsPythonName name) ∧
    ∀ settings defined code,
      HandlerTable.complete.generate settings (.create defined) .sqlAlchemy = .ok code →
      code = Target.sqlAlchemy.declaration (pythonIdentifier defined.table) defined.table
        (defined.columns.map SqlAlchemy.namedField) := by
  have legal := isPythonName_pythonIdentifier name
  refine ⟨identifierAvoiding_ne_empty _ name, legal, pythonIdentifier_eq_self_iff.mpr legal,
    pythonIdentifier_eq_self_iff, ?_⟩
  intro settings defined code generated
  rw [← List.map_congr_left fun column _ => SqlAlchemy.declaredField_eq_namedField column]
  exact (Statement.declaration_of_generate generated).symm

/-- Columns that are called as words of Python are.  One of the words is no keyword. -/
def keywordColumns : TableDefinition where
  table := "2 logs"
  columns := [{ name := "match", sqlType := "INT" }, { name := "from", sqlType := "TEXT" },
    { name := "größe", sqlType := "INT" }]

theorem pythonIdentifier_keywordColumns :
    HandlerTable.complete.generate {} (.create keywordColumns) .sqlAlchemy =
        .ok ("class _2_logs(Base):\n    __tablename__ = '2 logs'\n\n" ++
          "    match = Column(Integer)\n    from_ = Column('from', Text)\n" ++
          "    gr__e = Column('größe', Integer)") ∧
      "class _2_logs(Base):\n    __tablename__ = '2 logs'\n\n" ++
          "    match = Column(Integer)\n    from_ = Column('from', Text)\n" ++
          "    gr__e = Column('größe', Integer)" =
        Target.sqlAlchemy.declaration "_2_logs" "2 logs"
          (keywordColumns.columns.map SqlAlchemy.namedField) ∧
      pythonIdentifier "from" ≠ "from" := by
  have generated : HandlerTable.complete.generate {} (.create keywordColumns) .sqlAlchemy =
      .ok ("class _2_logs(Base):\n    __tablename__ = '2 logs'\n\n" ++
        "    match = Column(Integer)\n    from_ = Column('from', Text)\n" ++
        "    gr__e = Column('größe', Integer)") := by
    decide +kernel
  have model : pythonIdentifier "2 logs" = "_2_logs" := by decide
  obtain ⟨-, -, -, kept, declares⟩ := pythonIdentifier_determined "from"
  have declared := declares {} keywordColumns _ generated
  rw [keywordColumns, model] at declared
  exact ⟨generated, declared, mt kept.mp (by decide)⟩

end Text

end OrmCode
