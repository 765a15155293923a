import OrmCode.Proofs.Definition.Layout
import OrmCode.Proofs.SqlAlchemy.Spelling
import OrmCode.Proofs.Statement.Validity

/-!
# Class definitions by lines

A class is defined with one line for each column.  A column whose name is no attribute
has its name as the first argument.
-/

namespace OrmCode

namespace SqlAlchemy

open Javascript (Term isWord)
open Python
open Sequelize (entry)

def argumentTerms (given : String × Term) : List Term :=
  [.word given.1, given.2]

theorem spells_argument {name value : String} {term : Term} (word : isWord name = true)
    (spelled : Spells value [term]) :
    Spells (name ++ "=" ++ value) (argumentTerms (name ++ "=", term)) :=
  (Closed.argument word).append_spells spelled

/-- An argument that is there exactly for a marked column. -/
theorem spells_marker {text name word : String} (written : text = name ++ "=" ++ word)
    (named : isWord name = true) (spelled : isWord word = true) (marked : Bool) :
    List.Forall₂ Spells (if marked then [text] else [])
      ((entry (name ++ "=") (if marked then some (.word word) else none)).map argumentTerms) := by
  cases marked with
  | true => exact .cons (written ▸ spells_argument named (Spells.word spelled)) .nil
  | false => exact .nil

theorem spells_default {value : DefaultValue} (plain : value.isPlain = true) :
    Spells (defaultClause value) (argumentTerms (defaultEntry value)) := by
  have word : isWord "server_default" = true := by decide
  cases value with
  | literal given =>
      have same : "default=" = "default" ++ "=" := by decide
      have spelled := spells_argument (by decide : isWord "default" = true)
        (spells_literal plain)
      rw [← same] at spelled
      exact spelled
  | currentTimestamp =>
      have same : "server_default" ++ "=" ++ call "func.now" [] = "server_default=func.now()" := by
        decide
      have spelled := spells_argument word
        (closed_call (by decide : isWord "func.now" = true) .nil).spells
      rw [same] at spelled
      exact spelled
  | expression sql =>
      have same : "server_default=" = "server_default" ++ "=" := by decide
      have text := closed_singleCall (by decide : isWord "text" = true)
        (Closed.quoted sql).spells
      have spelled := spells_argument word text.spells
      rw [← same] at spelled
      exact spelled

/-- The entries of a column follow its type, and its name where it is no attribute. -/
def columnTerms (column : Column) (name : String) (type : Term) : List (List Term) :=
  (if name = column.name then [] else [[.text column.name]]) ++
    [type] :: (Target.sqlAlchemy.entries column).map argumentTerms

theorem spells_columnArguments {column : Column} (name : String) {type : String} {term : Term}
    (plain : ∀ value ∈ column.default?, value.isPlain = true) (typed : Spells type [term]) :
    List.Forall₂ Spells (columnArguments column name type) (columnTerms column name term) := by
  have explicit : List.Forall₂ Spells
      (if name = column.name then [] else [Text.quoted column.name])
      (if name = column.name then [] else [[.text column.name]]) := by
    split
    · exact .nil
    · exact .cons (Closed.quoted column.name).spells .nil
  have first : List.Forall₂ Spells [type] [[term]] := .cons typed .nil
  have word : isWord "True" = true := by decide
  have nullable : List.Forall₂ Spells (if column.nullable then [] else ["nullable=False"])
      ((entry "nullable=" (if column.nullable then none else some (.word "False"))).map
        argumentTerms) := by
    cases column.nullable with
    | true => exact .nil
    | false =>
        exact spells_marker (by decide : "nullable=False" = "nullable" ++ "=" ++ "False")
          (by decide) (by decide) true
  have primaryKey := spells_marker
    (by decide : "primary_key=True" = "primary_key" ++ "=" ++ "True") (by decide) word
    column.primaryKey
  have autoIncrement := spells_marker
    (by decide : "autoincrement=True" = "autoincrement" ++ "=" ++ "True") (by decide) word
    column.autoIncrement
  have unique := spells_marker (by decide : "unique=True" = "unique" ++ "=" ++ "True")
    (by decide) word column.unique
  have default := Outcome.forall₂_maps fun value (member : value ∈ column.default?.toList) =>
    spells_default (plain value (Option.mem_toList.mp member))
  have together := List.rel_append (List.rel_append (List.rel_append (List.rel_append
    (List.rel_append (List.rel_append explicit first) nullable) primaryKey) autoIncrement) unique)
    default
  have same : columnTerms column name term =
      (if name = column.name then [] else [[.text column.name]]) ++ [[term]] ++
        (entry "nullable=" (if column.nullable then none else some (.word "False"))).map
          argumentTerms ++
        (entry "primary_key=" (if column.primaryKey then some (.word "True") else none)).map
          argumentTerms ++
        (entry "autoincrement=" (if column.autoIncrement then some (.word "True") else none)).map
          argumentTerms ++
        (entry "unique=" (if column.unique then some (.word "True") else none)).map
          argumentTerms ++
        column.default?.toList.map (argumentTerms ∘ defaultEntry) := by
    simp only [columnTerms, Target.entries, Target.markers, Markers.entries,
      Target.defaultEntries, List.map_append, List.map_map, List.append_assoc, List.cons_append,
      List.nil_append]
  rw [same]
  exact together

theorem entries?_arguments (entries : List (String × Term)) :
    Sequelize.entries? (entries.map argumentTerms).flatten = some entries := by
  have read := Sequelize.entries?_flatMap (fun entry : String × Term => .word entry.1) Prod.snd
    (fun _ => rfl) entries
  rw [← List.flatMap_def]
  exact read.trans (by rw [List.map_id'])

/-- The name of a column is read off whether it is explicit or the attribute. -/
theorem columnOf?_columnTerms {column : Column} {name : String} {type : Term}
    (bare : ∀ value, type ≠ .text value) :
    columnOf? [.word name, .word "=",
        .list (.call "Column") (columnTerms column name type).flatten] =
      Target.sqlAlchemy.column? column.name type (Target.sqlAlchemy.entries column) := by
  have entries := entries?_arguments (Target.sqlAlchemy.entries column)
  rw [columnTerms]
  split
  · next same =>
      -- The first argument is the type, which no text is.
      rw [List.nil_append, List.flatten_cons, List.singleton_append, columnOf?]
      · rw [entries, same]
        rfl
      · intro value _ _ given _
        exact bare value given
  · rw [List.singleton_append, List.flatten_cons, List.flatten_cons, List.singleton_append,
      List.singleton_append, columnOf?, entries]
    rfl

theorem isLine_literal {value : Literal} (plain : value.isPlain = true) :
    Text.isLine (literal value) = true := by
  cases value with
  | string value => exact Text.isLine_quoted value
  | number numeral => exact Text.isLine_of_isWord (Javascript.isWord_of_isNumeral plain)
  | boolean value => cases value <;> decide
  | null => decide

theorem isLine_call {function : String} (word : isWord function = true) {arguments : List String}
    (each : ∀ argument ∈ arguments, Text.isLine argument = true) :
    Text.isLine (call function arguments) = true := by
  have items := Text.isLine_intercalate (by decide : Text.isLine ", " = true) each
  rw [call, Text.isLine_append, Text.isLine_append, Text.isLine_append,
    Text.isLine_of_isWord word, items]
  decide

theorem isLine_default {value : DefaultValue} (plain : value.isPlain = true) :
    Text.isLine (defaultClause value) = true := by
  cases value with
  | literal given =>
      change Text.isLine ("default=" ++ literal given) = true
      rw [Text.isLine_append, isLine_literal plain]
      decide
  | currentTimestamp => decide
  | expression sql =>
      have text := isLine_call (by decide : isWord "text" = true)
        (List.forall_mem_singleton.mpr (Text.isLine_quoted sql))
      change Text.isLine ("server_default=" ++ call "text" [Text.quoted sql]) = true
      rw [Text.isLine_append, text]
      decide

theorem isLine_columnArguments {column : Column} (name : String) {type : String}
    (plain : ∀ value ∈ column.default?, value.isPlain = true)
    (typed : Text.isLine type = true) :
    ∀ argument ∈ columnArguments column name type, Text.isLine argument = true := by
  simp only [columnArguments, List.forall_mem_append]
  refine ⟨⟨⟨⟨⟨⟨?_, ?_⟩, ?_⟩, ?_⟩, ?_⟩, ?_⟩, ?_⟩
  · split
    · simp
    · exact List.forall_mem_singleton.mpr (Text.isLine_quoted column.name)
  · exact List.forall_mem_singleton.mpr typed
  · cases column.nullable <;> decide
  · cases column.primaryKey <;> decide
  · cases column.autoIncrement <;> decide
  · cases column.unique <;> decide
  · intro argument member
    obtain ⟨value, given, rfl⟩ := List.mem_map.mp member
    exact isLine_default (plain value (Option.mem_toList.mp given))

theorem closed_indentation : Closed "    " [] :=
  fun _ => rfl

theorem delimits_assignment : Delimits " = " [.word "="] := by
  refine ⟨⟨' ', _, rfl, by decide⟩, fun rest => ?_⟩
  rw [List.flatMap_singleton, Term.tokens]
  rfl

section Line

variable {column : Column} {name : String} (word : isWord name = true)
  (plain : ∀ value ∈ column.default?, value.isPlain = true)

include word plain

theorem terms?_line {type : String} {term : Term} (typed : Spells type [term]) :
    Python.terms? ("    " ++ name ++ " = " ++ call "Column" (columnArguments column name type)) =
      some [.word name, .word "=",
        .list (.call "Column") (columnTerms column name term).flatten] := by
  have value := closed_call (by decide : isWord "Column" = true)
    (spells_columnArguments name plain typed)
  have closed := closed_indentation.append
    (((Spells.word word).delimited delimits_assignment).append value)
  simpa only [String.append_assoc, List.cons_append, List.nil_append] using terms?_of_closed closed

theorem isLine_line {type : String} (typed : Text.isLine type = true) :
    Text.isLine
      ("    " ++ name ++ " = " ++ call "Column" (columnArguments column name type)) = true := by
  have value := isLine_call (by decide : isWord "Column" = true)
    (isLine_columnArguments name plain typed)
  rw [Text.isLine_append, Text.isLine_append, Text.isLine_append, Text.isLine_of_isWord word,
    value]
  decide

variable {context : Context} {line : String} (passed : field context column name = .ok line)

include passed

theorem columnLine?_field (target : context.target = .sqlAlchemy) :
    Target.sqlAlchemy.columnLine? line = some (column.rendered .sqlAlchemy) := by
  obtain ⟨type, typed, same⟩ := Outcome.bind_eq_ok.mp passed
  obtain rfl := Except.ok.inj same
  obtain ⟨found, arguments, typeWord, words, rfl, rendered⟩ := Context.columnType_cases typed
  rw [target] at rendered
  have read := Target.column?_entries .sqlAlchemy plain found arguments
  rw [Target.columnLine?, Target.terms?,
    terms?_line word plain (TargetType.spells_render_python typeWord words), Option.bind_some,
    columnOf?_columnTerms (found.term_ne_text arguments), read, rendered]

theorem isLine_field : Text.isLine line = true := by
  obtain ⟨type, typed, same⟩ := Outcome.bind_eq_ok.mp passed
  obtain rfl := Except.ok.inj same
  obtain ⟨found, arguments, typeWord, words, rfl, -⟩ := Context.columnType_cases typed
  exact isLine_line word plain (TargetType.isLine_render typeWord words)

end Line

def namingLine (table : String) : String :=
  "    __tablename__ = " ++ Text.quoted table

theorem closed_namingLine (table : String) :
    Closed (namingLine table) [.word "__tablename__", .word "=", .text table] := by
  have name : Spells "__tablename__" [.word "__tablename__"] := Spells.word (by decide)
  have opening : "    __tablename__ = " = "    " ++ ("__tablename__" ++ " = ") := by decide
  have closed := closed_indentation.append
    ((name.delimited delimits_assignment).append (Closed.quoted table))
  simp only [String.append_assoc, List.cons_append, List.nil_append] at closed
  unfold namingLine
  rw [opening, String.append_assoc, String.append_assoc]
  exact closed

theorem tableLine?_namingLine (table : String) :
    Target.sqlAlchemy.tableLine? (namingLine table) = some table := by
  rw [Target.tableLine?, Target.terms?, terms?_of_closed (closed_namingLine table)]
  rfl

def classLines (table : String) : List String :=
  ["class " ++ Text.pythonIdentifier table ++ "(Base):", namingLine table, ""]

theorem isLine_classLines (table : String) :
    ∀ line ∈ classLines table, Text.isLine line = true := by
  have model := Text.isLine_of_isWord (isWord_pythonIdentifier table)
  have opening : Text.isLine ("class " ++ Text.pythonIdentifier table ++ "(Base):") = true := by
    rw [Text.isLine_append, Text.isLine_append, model]
    decide
  have naming : Text.isLine (namingLine table) = true := by
    unfold namingLine
    rw [Text.isLine_append, Text.isLine_quoted]
    decide
  simp only [classLines, List.forall_mem_cons]
  exact ⟨opening, naming, by decide, by simp⟩

/-- The last line is that of a column, so it is not empty and no line is lost. -/
theorem lines_class (table : String) {fields : List String} (something : fields ≠ [])
    (within : ∀ line ∈ fields, line ≠ "" ∧ Text.isLine line = true) :
    Text.lines ("\n".intercalate (classLines table ++ fields)) = classLines table ++ fields := by
  obtain ⟨others, last, rfl⟩ := (List.eq_nil_or_concat' fields).resolve_left something
  rw [← List.append_assoc]
  apply Text.lines_intercalate (within last (by simp)).1
  rw [List.append_assoc, List.forall_mem_append]
  exact ⟨isLine_classLines table, fun line member => (within line member).2⟩

theorem forall₂_fields {context : Context} (target : context.target = .sqlAlchemy)
    {columns : List Column} {fields : List String}
    (plain : ∀ column ∈ columns, ∀ value ∈ column.default?, value.isPlain = true)
    (passed : ((columns.zip (columns.map fun column => Text.pythonIdentifier column.name)).mapM
      fun (column, name) => field context column name) = .ok fields) :
    List.Forall₂ (fun line column => (line ≠ "" ∧ Text.isLine line = true) ∧
      Target.sqlAlchemy.columnLine? line = some (column.rendered .sqlAlchemy))
      fields columns := by
  rw [← List.map_prod_left_eq_zip] at passed
  have made : List.Forall₂ (fun (pair : Column × String) line =>
      (line ≠ "" ∧ Text.isLine line = true) ∧
        Target.sqlAlchemy.columnLine? line = some (pair.1.rendered .sqlAlchemy))
      (columns.map fun column => (column, Text.pythonIdentifier column.name)) fields := by
    apply Outcome.forall₂_of_mapM passed
    intro pair member line made
    obtain ⟨column, listed, rfl⟩ := List.mem_map.mp member
    have word := isWord_pythonIdentifier column.name
    have read := columnLine?_field word (plain column listed) made target
    refine ⟨⟨?_, isLine_field word (plain column listed) made⟩, read⟩
    rintro rfl
    cases read
  rw [List.forall₂_map_left_iff] at made
  exact made.flip

theorem laidOut_definition {context : Context} (target : context.target = .sqlAlchemy)
    {defined : TableDefinition} {code : String}
    (plain : ∀ column ∈ defined.columns, ∀ value ∈ column.default?, value.isPlain = true)
    (generated : definition context defined = .ok code) :
    LaidOut .sqlAlchemy defined (Text.lines code) := by
  obtain ⟨_, passed, rest⟩ := Outcome.bind_eq_ok.mp generated
  obtain ⟨names, named, rest⟩ := Outcome.bind_eq_ok.mp rest
  obtain ⟨fields, fieldsPassed, same⟩ := Outcome.bind_eq_ok.mp rest
  obtain rfl := Except.ok.inj same
  obtain rfl := attributeNames_eq_ok named
  rw [List.map_map] at fieldsPassed
  obtain ⟨within, read⟩ := (List.forall₂_and_left _ _).mp (forall₂_fields target plain fieldsPassed)
  have columnsGiven := TableDefinition.columns_ne_nil_of_validate
    (Outcome.mapError_eq_ok.mp passed)
  have fieldsGiven : fields ≠ [] := by
    rintro rfl
    exact columnsGiven (List.forall₂_nil_left_iff.mp read)
  have laidOut : LaidOut .sqlAlchemy defined (classLines defined.table ++ fields ++ []) := by
    refine LaidOut.mk _ _ _ rfl rfl ?_ read
    have second : (classLines defined.table ++ [])[Target.sqlAlchemy.namingLine]? =
        some (namingLine defined.table) := rfl
    rw [second, Option.bind_some, tableLine?_namingLine]
  rw [List.append_nil, ← lines_class defined.table fieldsGiven within] at laidOut
  exact laidOut

end SqlAlchemy

end OrmCode
