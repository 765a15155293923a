import OrmCode.Proofs.Reference.Model

/-!
# What references reach

The body of a class of Python binds a private name behind the name of the class, and an
object of JavaScript makes no key of `__proto__`.  Code that reads or changes a table names
the model that the code of the table declares.  It reaches the field of a column exactly if
the model has this field under its own name and no other field under the same one.
-/

namespace OrmCode

namespace Python

/-- Whether a name is private to a class: it starts with two underscores and does not end with
two. -/
def isPrivate (name : String) : Bool :=
  List.isPrefixOf ['_', '_'] name.toList && !List.isSuffixOf ['_', '_'] name.toList

/-- The name of a class without the underscores that it starts with. -/
def classStem (className : String) : String :=
  String.ofList (className.toList.dropWhile (· == '_'))

/-- The name that the body of a class binds.  A private one goes behind the name of the class,
unless that is made of underscores alone.  Outside of classes names stay as they are written. -/
def boundName (className name : String) : String :=
  if isPrivate name && classStem className != "" then "_" ++ classStem className ++ name
  else name

/-- The stem of a class starts with no underscore, so that what is bound behind it is not
private. -/
theorem isPrivate_append {className : String} (stem : classStem className ≠ "") (name : String) :
    isPrivate ("_" ++ classStem className ++ name) = false := by
  have starts := List.head?_dropWhile_not (· == '_') className.toList
  rw [classStem, Ne, String.ofList_eq_empty_iff] at stem
  obtain ⟨first, rest, kept⟩ := List.exists_cons_of_ne_nil stem
  rw [kept, List.head?_cons] at starts
  have characters : ("_" ++ classStem className ++ name).toList =
      '_' :: first :: (rest ++ name.toList) := by
    rw [classStem, kept]
    simp
  have apart : ('_' == first) = false := by
    rw [BEq.comm]
    exact starts
  rw [isPrivate, characters, List.isPrefixOf, List.isPrefixOf, apart]
  simp

theorem boundName_boundName (className name : String) :
    boundName className (boundName className name) = boundName className name := by
  by_cases moved : (isPrivate name && classStem className != "") = true
  · have stem := bne_iff_ne.mp (Bool.and_eq_true_iff.mp moved).2
    have bound : boundName className name = "_" ++ classStem className ++ name := if_pos moved
    rw [bound, boundName, isPrivate_append stem, Bool.false_and, if_neg Bool.false_ne_true]
  · have kept : boundName className name = name := if_neg moved
    rw [kept, kept]

theorem boundName_eq_self_iff {className name : String} :
    boundName className name = name ↔ isPrivate name = false ∨ classStem className = "" := by
  by_cases moved : (isPrivate name && classStem className != "") = true
  · obtain ⟨secret, stem⟩ := Bool.and_eq_true_iff.mp moved
    have bound : boundName className name = "_" ++ classStem className ++ name := if_pos moved
    refine iff_of_false (fun same => ?_) (by simpa [secret] using stem)
    have longer := congrArg String.length (bound.symm.trans same)
    rw [String.length_append, String.length_append] at longer
    have one : "_".length = 1 := by decide
    omega
  · refine iff_of_true (if_neg moved) ?_
    rwa [Bool.and_eq_true, not_and_or, Bool.not_eq_true, bne_iff_ne, not_not] at moved

end Python

/-- The key that an entry of an object makes.  One called `__proto__` makes none: it sets the
prototype of the object, whether it is written between quotes or not. -/
def Javascript.ownKey? (key : String) : Option String :=
  if key = "__proto__" then none else some key

theorem Javascript.ownKey?_eq_some_iff {key own : String} :
    ownKey? key = some own ↔ key = own ∧ key ≠ "__proto__" := by
  rw [ownKey?]
  split <;> simp_all

namespace Target

/-- The name under which a model has a field that its code declares, if it has it. -/
def boundName? (modelName name : String) : Target → Option String
  | sequelize => Javascript.ownKey? name
  | sqlAlchemy => some (Python.boundName modelName name)

/-- The column that a declared field stands for: the one that is given, or else the one called as
the field is bound. -/
def boundColumn? (target : Target) (modelName : String) (field : DeclaredField) : Option String :=
  field.explicit?.or (target.boundName? modelName field.name)

/-- Whether a model has the field of a column under its own name, and no other field under the same
one. -/
def KeepsField (modelName : String) (columns : List String) (column : String) : Target → Prop
  | sequelize => column ≠ "__proto__"
  | sqlAlchemy =>
    (Python.isPrivate (Text.pythonIdentifier column) = false ∨ Python.classStem modelName = "") ∧
      ∀ other ∈ columns, other ≠ column →
        Python.boundName modelName (Text.pythonIdentifier other) ≠ Text.pythonIdentifier column

instance (modelName : String) (columns : List String) (column : String) :
    (target : Target) → Decidable (target.KeepsField modelName columns column)
  | sequelize => inferInstanceAs (Decidable (_ ≠ _))
  | sqlAlchemy => inferInstanceAs (Decidable (_ ∧ _))

variable {target : Target} {modelName : String}

/-- What is bound under a name is bound under it again. -/
theorem boundName?_of_boundName? {name bound : String}
    (found : target.boundName? modelName name = some bound) :
    target.boundName? modelName bound = some bound := by
  cases target with
  | sequelize =>
      obtain ⟨rfl, own⟩ := Javascript.ownKey?_eq_some_iff.mp found
      exact Javascript.ownKey?_eq_some_iff.mpr ⟨rfl, own⟩
  | sqlAlchemy =>
      obtain rfl := Option.some.inj found
      exact congrArg some (Python.boundName_boundName _ _)

theorem boundColumn?_declaredField {column : Column}
    (kept : target.boundName? modelName (target.fieldName column.name) =
      some (target.fieldName column.name)) :
    target.boundColumn? modelName (target.declaredField column) = some column.name := by
  rw [boundColumn?, declaredField]
  split
  · next same => rw [Option.none_or, kept, same]
  · rfl

theorem keepsField_iff {columns : List String} {column : String} :
    target.KeepsField modelName columns column ↔
      target.boundName? modelName (target.fieldName column) = some (target.fieldName column) ∧
        ∀ other ∈ columns, other ≠ column →
          target.boundName? modelName (target.fieldName other) ≠
            some (target.fieldName column) := by
  cases target with
  | sequelize =>
      simp only [KeepsField, boundName?, Ne, Javascript.ownKey?_eq_some_iff, fieldName, id_eq,
        true_and]
      exact ⟨fun own => ⟨own, fun other _ apart same => apart same.1⟩, And.left⟩
  | sqlAlchemy =>
      simp only [KeepsField, boundName?, fieldName, Option.some.injEq, Ne,
        Python.boundName_eq_self_iff]

end Target

/-- Whether a text of code is the name of a field: the name itself, if it is an identifier, or the
name between quotes. -/
def Names (written name : String) : Prop :=
  (Text.isIdentifier name = true ∧ written = name) ∨ written = Text.quoted name

theorem Names.eq {written name other : String} (names : Names written name)
    (namesOther : Names written other) : name = other := by
  rcases names with ⟨bare, rfl⟩ | rfl
  · rcases namesOther with ⟨-, same⟩ | quoted
    · exact same
    · rw [quoted, Javascript.isIdentifier_quoted] at bare
      cases bare
  · rcases namesOther with ⟨bare, same⟩ | quoted
    · rw [← same, Javascript.isIdentifier_quoted] at bare
      cases bare
    · exact Javascript.quoted_injective quoted

theorem names_written {target : Target} {modelName column : String} {piece : Piece}
    (refers : piece.column? = some column) :
    Names (piece.written target modelName) (target.fieldName column) := by
  cases piece with
  | plain text => cases refers
  | model => cases refers
  | memberText other =>
      obtain rfl := Option.some.inj refers
      exact .inr rfl
  | member other =>
      obtain rfl := Option.some.inj refers
      cases target with
      | sequelize =>
          by_cases bare : Text.isIdentifier other = true
          · exact .inl ⟨bare, if_pos bare⟩
          · exact .inr (if_neg bare)
      | sqlAlchemy => exact .inl ⟨Text.isIdentifier_identifierAvoiding _ other, rfl⟩

/-- A reference as it is written reaches the field of a column: one field alone of the model is
bound to the name that is written, and it stands for the column. -/
def Reaches (target : Target) (modelName : String) (fields : List DeclaredField)
    (written column : String) : Prop :=
  ∃ name before field after, Names written name ∧ fields = before ++ field :: after ∧
    target.boundName? modelName field.name = some name ∧
    target.boundColumn? modelName field = some column ∧
    ∀ other ∈ before ++ after, target.boundName? modelName other.name ≠ some name

/-- Code that declares a model declares each column by a field of another name. -/
theorem name_eq_of_fieldName_eq {settings : Settings} {defined : TableDefinition} {target : Target}
    {code : String} {first second : Column}
    (generated : HandlerTable.complete.generate settings (.create defined) target = .ok code)
    (listed : first ∈ defined.columns) (listedToo : second ∈ defined.columns)
    (same : target.fieldName first.name = target.fieldName second.name) : first = second := by
  have distinct := nodup_fieldNames generated
  rw [List.map_map] at distinct
  exact List.inj_on_of_nodup_map distinct listed listedToo same

/-- A reference to a column reaches its field exactly if the model has this field under its own
name and no other field under the same one. -/
theorem reaches_iff {settings : Settings} {defined : TableDefinition} {target : Target}
    {code modelName column : String} {piece : Piece}
    (generated : HandlerTable.complete.generate settings (.create defined) target = .ok code)
    (known : column ∈ defined.columns.map Column.name) (refers : piece.column? = some column) :
    Reaches target modelName (defined.columns.map target.declaredField)
        (piece.written target modelName) column ↔
      target.KeepsField modelName (defined.columns.map Column.name) column := by
  have names := @names_written target modelName column piece refers
  obtain ⟨given, member, rfl⟩ := List.mem_map.mp known
  have listed : target.declaredField given ∈ defined.columns.map target.declaredField :=
    List.mem_map_of_mem member
  rw [Target.keepsField_iff]
  constructor
  · rintro ⟨name, before, field, after, namesToo, split, bound, -, apart⟩
    obtain rfl := namesToo.eq names
    have kept := Target.boundName?_of_boundName? bound
    have one : ∀ other ∈ defined.columns.map target.declaredField,
        target.boundName? modelName other.name = some (target.fieldName given.name) →
          other = field := by
      intro other otherListed same
      rw [split, List.mem_append, List.mem_cons, or_left_comm, ← List.mem_append] at otherListed
      exact otherListed.resolve_right fun elsewhere => apart _ elsewhere same
    refine ⟨kept, fun _ otherKnown different same => different ?_⟩
    obtain ⟨other, otherMember, rfl⟩ := List.mem_map.mp otherKnown
    have together : target.declaredField other = target.declaredField given :=
      (one _ (List.mem_map_of_mem otherMember) same).trans (one _ listed kept).symm
    rw [name_eq_of_fieldName_eq generated otherMember member
      (congrArg DeclaredField.name together)]
  · rintro ⟨kept, apart⟩
    obtain ⟨before, after, split⟩ := List.append_of_mem listed
    refine ⟨_, before, _, after, names, split, kept, Target.boundColumn?_declaredField kept, ?_⟩
    intro field elsewhere same
    have fieldListed : field ∈ defined.columns.map target.declaredField := by
      rw [split, List.mem_append, List.mem_cons, or_left_comm, ← List.mem_append]
      exact .inr elsewhere
    obtain ⟨other, otherMember, rfl⟩ := List.mem_map.mp fieldListed
    refine apart _ (List.mem_map_of_mem otherMember) (fun sameName => ?_) same
    have distinct := nodup_fieldNames generated
    rw [split, List.map_append, List.map_cons, List.nodup_middle, ← List.map_append,
      List.nodup_cons] at distinct
    have again : (target.declaredField other).name = (target.declaredField given).name :=
      congrArg target.fieldName sameName
    exact distinct.1 (again ▸ List.mem_map_of_mem elsewhere)

/-- Code that reads or changes a table names the model that the code of the table declares.  Each
of its references to a column reaches the field of the column exactly if the model has this field
under its own name and no other field under the same one. -/
theorem code_reaches_iff {settings otherSettings : Settings} {defined : TableDefinition}
    {statement : Statement} {target : Target} {declared code : String}
    (created : HandlerTable.complete.generate settings (.create defined) target = .ok declared)
    (uses : ∀ other, statement ≠ .create other) (sameTable : statement.table? = some defined.table)
    (known : ∀ column ∈ statement.mentioned, column ∈ defined.columns.map Column.name)
    (generated : HandlerTable.complete.generate otherSettings statement target = .ok code) :
    declared = target.declaration (target.modelName defined.table) defined.table
        (defined.columns.map target.declaredField) ∧
      code = Piece.code target (target.modelName defined.table) (statement.pieces target) ∧
      .model ∈ statement.pieces target ∧
      (∀ piece ∈ statement.pieces target, ∀ column, piece.column? = some column →
        (Reaches target (target.modelName defined.table)
            (defined.columns.map target.declaredField)
            (piece.written target (target.modelName defined.table)) column ↔
          target.KeepsField (target.modelName defined.table) (defined.columns.map Column.name)
            column)) ∧
      ∀ column ∈ statement.mentioned, column ∈ Piece.columns (statement.pieces target) ∨
        (target = .sequelize ∧ column ∈ statement.operands) := by
  refine ⟨(Statement.declaration_of_generate created).symm,
    (Statement.code_pieces uses sameTable generated).symm,
    Statement.model_mem_pieces uses generated, ?_,
    fun column named => Statement.mem_columns_pieces uses generated named⟩
  intro piece member column refers
  have referred : column ∈ Piece.columns (statement.pieces target) :=
    List.mem_filterMap.mpr ⟨piece, member, refers⟩
  exact reaches_iff created (known column (Statement.mem_mentioned referred)) refers

/-- A table with a column that a class of Python makes private. -/
def privateTable : TableDefinition where
  table := "users"
  columns := [{ name := "id", sqlType := "INT" }, { name := "__secret", sqlType := "INT" }]

def privateQuery : Statement :=
  .select { table := "users", columns := ["id", "__secret"] }

/-- A table with a column that an object of JavaScript makes no key of. -/
def prototypeTable : TableDefinition where
  table := "t"
  columns := [{ name := "__proto__", sqlType := "INT" }]

def prototypeDeletion : Statement :=
  .delete { table := "t", filter? := some (.compare "__proto__" .equal (.number "1")) }

theorem code_reaches_publicColumn :
    HandlerTable.complete.generate {} (.create privateTable) .sqlAlchemy =
        .ok ("class users(Base):\n    __tablename__ = 'users'\n\n" ++
          "    id = Column(Integer)\n    __secret = Column(Integer)") ∧
      HandlerTable.complete.generate {} privateQuery .sqlAlchemy =
        .ok "session.query(users.id, users.__secret).all()" ∧
      Reaches .sqlAlchemy "users" (privateTable.columns.map Target.sqlAlchemy.declaredField)
        "id" "id" ∧
      ¬Reaches .sqlAlchemy "users" (privateTable.columns.map Target.sqlAlchemy.declaredField)
        "__secret" "__secret" ∧
      HandlerTable.complete.generate {} (.create prototypeTable) .sequelize =
        .ok ("const t = sequelize.define('t', \x7b\n" ++
          "  __proto__: \x7b type: DataTypes.INTEGER \x7d\n\x7d, \x7b\n" ++
          "  tableName: 't',\n  timestamps: false\n\x7d);") ∧
      HandlerTable.complete.generate {} prototypeDeletion .sequelize =
        .ok "await t.destroy(\x7b where: \x7b __proto__: \x7b [Op.eq]: 1 \x7d \x7d \x7d);" ∧
      ¬Reaches .sequelize "t" (prototypeTable.columns.map Target.sequelize.declaredField)
        "__proto__" "__proto__" := by
  have created : HandlerTable.complete.generate {} (.create privateTable) .sqlAlchemy =
      .ok ("class users(Base):\n    __tablename__ = 'users'\n\n" ++
        "    id = Column(Integer)\n    __secret = Column(Integer)") := by
    decide +kernel
  have generated : HandlerTable.complete.generate {} privateQuery .sqlAlchemy =
      .ok "session.query(users.id, users.__secret).all()" := by
    decide +kernel
  have createdToo : HandlerTable.complete.generate {} (.create prototypeTable) .sequelize =
      .ok ("const t = sequelize.define('t', \x7b\n" ++
        "  __proto__: \x7b type: DataTypes.INTEGER \x7d\n\x7d, \x7b\n" ++
        "  tableName: 't',\n  timestamps: false\n\x7d);") := by
    decide +kernel
  have generatedToo : HandlerTable.complete.generate {} prototypeDeletion .sequelize =
      .ok "await t.destroy(\x7b where: \x7b __proto__: \x7b [Op.eq]: 1 \x7d \x7d \x7d);" := by
    decide +kernel
  have keyed : .member "__proto__" ∈ prototypeDeletion.pieces .sequelize := by
    simp only [prototypeDeletion, Statement.pieces, Sequelize.deletionPieces,
      Sequelize.filterPieces?, Option.toList_some, List.map_singleton, Filter.compare,
      Filter.Marks.pieces]
    decide
  obtain ⟨-, -, -, reached, -⟩ := code_reaches_iff created (by rintro other ⟨⟩) rfl
    (by decide) generated
  obtain ⟨-, -, -, reachedToo, -⟩ := code_reaches_iff createdToo (by rintro other ⟨⟩) rfl
    (by decide) generatedToo
  refine ⟨created, generated, ?_, ?_, createdToo, generatedToo, ?_⟩
  · exact (reached (.member "id") (by decide) "id" rfl).mpr (by decide)
  · exact mt (reached (.member "__secret") (by decide) "__secret" rfl).mp (by decide)
  · exact mt (reachedToo (.member "__proto__") keyed "__proto__" rfl).mp (by decide)

end OrmCode
