import OrmCode.Proofs.Definition.Layout
import OrmCode.Proofs.Sequelize.Spelling
import OrmCode.Proofs.Statement.Validity

/-!
# Model definitions by lines

A model is defined with one line for each column, and every line but the last ends
with a comma.
-/

namespace OrmCode

namespace Sequelize

open Javascript

theorem spells_default {value : DefaultValue} (plain : value.isPlain = true) :
    Spells (defaultValue value) [defaultTerm value] := by
  cases value with
  | literal given => exact spells_literal plain
  | currentTimestamp => exact Spells.word (by decide : isWord "DataTypes.NOW" = true)
  | expression sql => exact spells_sqlText sql

/-- An entry that is there exactly for a marked column. -/
theorem spells_marker {name word : String} (bare : Text.isIdentifier name = true)
    (spelled : isWord word = true) (marked : Bool) :
    List.Forall₂ SpellsNamed (if marked then [(name, word)] else [])
      (entry name (if marked then some (.word word) else none)) := by
  cases marked with
  | true => exact .cons ⟨spells_bareKey bare, Spells.word spelled⟩ .nil
  | false => exact .nil

theorem spells_attributes {column : Column} {type : String} {term : Term}
    (plain : ∀ value ∈ column.default?, value.isPlain = true) (typed : Spells type [term]) :
    Spells (object (attributes column type))
      [objectTerm (("type", term) :: Target.sequelize.entries column)] := by
  have first : List.Forall₂ SpellsNamed [("type", type)] [("type", term)] :=
    .cons ⟨spells_bareKey (by decide : Text.isIdentifier "type" = true), typed⟩ .nil
  have word : isWord "true" = true := by decide
  have nullable : List.Forall₂ SpellsNamed
      (if column.nullable then [] else [("allowNull", "false")])
      (entry "allowNull" (if column.nullable then none else some (.word "false"))) := by
    cases column.nullable with
    | true => exact .nil
    | false => exact spells_marker (by decide) (by decide) true
  have primaryKey := spells_marker (by decide : Text.isIdentifier "primaryKey" = true) word
    column.primaryKey
  have autoIncrement := spells_marker (by decide : Text.isIdentifier "autoIncrement" = true) word
    column.autoIncrement
  have unique := spells_marker (by decide : Text.isIdentifier "unique" = true) word column.unique
  have given : Option.Rel (fun text value => Spells text [defaultTerm value])
      (column.default?.map defaultValue) column.default? := by
    cases found : column.default? with
    | none => exact .none
    | some value => exact .some (spells_default (plain value found))
  have default := spells_option (by decide : Text.isIdentifier "defaultValue" = true) given
  rw [Option.toList_map, List.map_map] at default
  exact spells_objectTerm (List.rel_append (List.rel_append (List.rel_append (List.rel_append
    (List.rel_append first nullable) primaryKey) autoIncrement) unique) default)

-- Every line is read with a semicolon behind it, as if it were a statement.

theorem separates_lineEnd : Separates ("" ++ ";") :=
  separates_semicolon

theorem separates_commaEnd : Separates ("," ++ ";") :=
  ⟨',', [';'], rfl, by decide, fun _ => rfl⟩

theorem spells_indented {text : String} {terms : List Term} (spelled : Spells text terms) :
    Spells ("  " ++ text) terms := by
  have blanks : Separates "  " := ⟨' ', [' '], rfl, by decide, fun _ => rfl⟩
  have found := Spells.nothing.append blanks spelled
  rwa [String.empty_append, List.nil_append] at found

theorem isLine_literal {value : Literal} (plain : value.isPlain = true) :
    Text.isLine (literal value) = true := by
  cases value with
  | string value => exact Text.isLine_quoted value
  | number numeral => exact Text.isLine_of_isWord (isWord_of_isNumeral plain)
  | boolean value => cases value <;> decide
  | null => decide

theorem isLine_default {value : DefaultValue} (plain : value.isPlain = true) :
    Text.isLine (defaultValue value) = true := by
  cases value with
  | literal given => exact isLine_literal plain
  | currentTimestamp => decide
  | expression sql =>
      unfold defaultValue sqlText
      rw [Text.isLine_append, Text.isLine_append, Text.isLine_quoted]
      decide

theorem isLine_key (name : String) : Text.isLine (Text.javascriptKey name) = true := by
  rw [Text.javascriptKey]
  split
  · next bare => exact Text.isLine_of_isWord (isWord_of_isIdentifier bare)
  · exact Text.isLine_quoted name

theorem isLine_object {entries : List (String × String)}
    (each : ∀ entry ∈ entries, Text.isLine entry.1 = true ∧ Text.isLine entry.2 = true) :
    Text.isLine (object entries) = true := by
  rw [object]
  split
  · decide
  · rw [Text.isLine_append, Text.isLine_append, Text.isLine_intercalate]
    · decide
    · decide
    · intro text member
      obtain ⟨entry, listed, rfl⟩ := List.mem_map.mp member
      obtain ⟨key, value⟩ := each entry listed
      rw [Text.isLine_append, Text.isLine_append, key, value]
      decide

theorem isLine_attributes {column : Column} {type : String}
    (plain : ∀ value ∈ column.default?, value.isPlain = true)
    (typed : Text.isLine type = true) :
    ∀ entry ∈ attributes column type,
      Text.isLine entry.1 = true ∧ Text.isLine entry.2 = true := by
  simp only [attributes, List.forall_mem_append]
  refine ⟨⟨⟨⟨⟨?_, ?_⟩, ?_⟩, ?_⟩, ?_⟩, ?_⟩
  · exact List.forall_mem_singleton.mpr ⟨(by decide : Text.isLine "type" = true), typed⟩
  · cases column.nullable <;> decide
  · cases column.primaryKey <;> decide
  · cases column.autoIncrement <;> decide
  · cases column.unique <;> decide
  · intro entry member
    obtain ⟨value, given, rfl⟩ := List.mem_map.mp member
    exact ⟨(by decide : Text.isLine "defaultValue" = true),
      isLine_default (plain value (Option.mem_toList.mp given))⟩

section Field

variable {context : Context} {column : Column} {line : String}
  (plain : ∀ value ∈ column.default?, value.isPlain = true)
  (passed : field context column = .ok line)

include plain passed

/-- The line of a column is read back with and without a comma at its end. -/
theorem columnLine?_field (target : context.target = .sequelize) {ending : String}
    (separates : Separates (ending ++ ";")) :
    Target.sequelize.columnLine? (line ++ ending) = some (column.rendered .sequelize) := by
  obtain ⟨type, typed, same⟩ := Outcome.bind_eq_ok.mp passed
  obtain rfl := Except.ok.inj same
  obtain ⟨found, arguments, word, words, rfl, rendered⟩ := Context.columnType_cases typed
  rw [target] at rendered
  have spelled := (spells_key column.name).append separates_colon
    (spells_attributes plain (TargetType.spells_render word words))
  have terms := terms?_of_spells separates (spells_indented spelled)
  have read := Target.column?_entries .sequelize plain found arguments
  simp only [String.append_assoc] at terms
  rw [Target.columnLine?, Target.terms?]
  simp only [String.append_assoc]
  rw [terms, Option.bind_some]
  simp only [columnOf?, name?_keyTerm, object?_objectTerm, List.cons_append, List.nil_append,
    Option.bind_eq_bind, Option.bind_some, read, rendered]

theorem isLine_field : Text.isLine line = true := by
  obtain ⟨type, typed, same⟩ := Outcome.bind_eq_ok.mp passed
  obtain rfl := Except.ok.inj same
  obtain ⟨found, arguments, word, words, rfl, -⟩ := Context.columnType_cases typed
  have inside := isLine_object
    (isLine_attributes plain (TargetType.isLine_render word words))
  rw [Text.isLine_append, Text.isLine_append, Text.isLine_append, isLine_key, inside]
  decide

end Field

/-- The lines of several columns, of which each but the last ends with a comma. -/
def commaEnded : List String → List String
  | [] => []
  | [last] => [last]
  | first :: others => (first ++ ",") :: commaEnded others

theorem commaEnded_ne_nil {lines : List String} (something : lines ≠ []) :
    commaEnded lines ≠ [] := by
  match lines with
  | [] => exact absurd rfl something
  | [last] => exact List.cons_ne_nil _ _
  | first :: second :: others => exact List.cons_ne_nil _ _

theorem intercalate_commaEnded (lines : List String) :
    ",\n".intercalate lines = "\n".intercalate (commaEnded lines) := by
  induction lines with
  | nil => rfl
  | cons first lines induction =>
      cases lines with
      | nil => rw [commaEnded, String.intercalate_singleton, String.intercalate_singleton]
      | cons second others =>
          have something := commaEnded_ne_nil (List.cons_ne_nil second others)
          have separator : ",\n" = "," ++ "\n" := rfl
          have step : commaEnded (first :: second :: others) =
              (first ++ ",") :: commaEnded (second :: others) := rfl
          rw [String.intercalate_cons_cons, induction, step,
            String.intercalate_cons_of_ne_nil something, separator]
          simp only [String.append_assoc]

/-- What holds of each line with and without a comma holds of the lines of all columns. -/
theorem forall₂_commaEnded {Value : Type} {relation : String → Value → Prop}
    {lines : List String} {values : List Value}
    (each : List.Forall₂ (fun line value => relation line value ∧ relation (line ++ ",") value)
      lines values) : List.Forall₂ relation (commaEnded lines) values := by
  induction each with
  | nil => exact .nil
  | cons here later induction =>
      cases later with
      | nil => exact .cons here.1 .nil
      | cons next others => exact .cons here.2 induction

def openingLine (table : String) : String :=
  "const " ++ Text.javascriptIdentifier table ++ " = sequelize.define(" ++ Text.quoted table ++
    ", \x7b"

def namingLine (table : String) : String :=
  "  tableName: " ++ Text.quoted table ++ ","

theorem tableLine?_namingLine (table : String) :
    Target.sequelize.tableLine? (namingLine table) = some table := by
  have name : Spells "tableName" [.word "tableName"] := Spells.word (by decide)
  have terms := terms?_of_spells separates_commaEnd
    (spells_indented (name.append separates_colon (Spells.quoted table)))
  have opening : "  tableName: " = "  " ++ ("tableName" ++ ": ") := by decide
  simp only [String.append_assoc] at terms
  rw [Target.tableLine?, Target.terms?, namingLine, opening]
  simp only [String.append_assoc]
  rw [terms]
  rfl

theorem isLine_openingLine (table : String) : Text.isLine (openingLine table) = true := by
  have binding := Text.isLine_of_isWord
    (isWord_identifierAvoiding Text.javascriptReserved table)
  unfold openingLine Text.javascriptIdentifier
  simp only [Text.isLine_append, binding, Text.isLine_quoted]
  decide

theorem isLine_namingLine (table : String) : Text.isLine (namingLine table) = true := by
  unfold namingLine
  simp only [Text.isLine_append, Text.isLine_quoted]
  decide

theorem code_eq (table : String) (fields : List String) (something : commaEnded fields ≠ []) :
    "const " ++ Text.javascriptIdentifier table ++ " = sequelize.define(" ++ Text.quoted table ++
      ", \x7b\n" ++ ",\n".intercalate fields ++ "\n\x7d, \x7b\n  tableName: " ++
      Text.quoted table ++ ",\n  timestamps: false\n\x7d);" =
    "\n".intercalate (openingLine table :: (commaEnded fields ++
      ["\x7d, \x7b", namingLine table, "  timestamps: false"]) ++ ["\x7d);"]) := by
  have opening : ", \x7b\n" = ", \x7b" ++ "\n" := by decide
  have middle : "\n\x7d, \x7b\n  tableName: " =
      "\n" ++ ("\x7d, \x7b" ++ ("\n" ++ "  tableName: ")) := by decide
  have closing : ",\n  timestamps: false\n\x7d);" =
      "," ++ ("\n" ++ ("  timestamps: false" ++ ("\n" ++ "\x7d);"))) := by decide
  rw [List.cons_append, List.append_assoc, String.intercalate_cons_of_ne_nil (by simp),
    String.intercalate_append_of_ne_nil something (by simp), intercalate_commaEnded, opening,
    middle, closing]
  simp only [openingLine, namingLine, String.intercalate_cons_cons, List.cons_append,
    List.nil_append, String.intercalate_singleton, String.append_assoc]

theorem laidOut_definition {context : Context} (target : context.target = .sequelize)
    {defined : TableDefinition} {code : String}
    (plain : ∀ column ∈ defined.columns, ∀ value ∈ column.default?, value.isPlain = true)
    (generated : definition context defined = .ok code) :
    LaidOut .sequelize defined (Text.lines code) := by
  obtain ⟨_, passed, rest⟩ := Outcome.bind_eq_ok.mp generated
  obtain ⟨fields, fieldsPassed, same⟩ := Outcome.bind_eq_ok.mp rest
  obtain rfl := Except.ok.inj same
  have each : List.Forall₂ (fun line column =>
      Text.isLine line = true ∧
        Target.sequelize.columnLine? line = some (column.rendered .sequelize))
      (commaEnded fields) defined.columns := by
    apply forall₂_commaEnded
    apply List.Forall₂.flip
    apply Outcome.forall₂_of_mapM fieldsPassed
    intro column member line made
    have plainColumn := plain column member
    -- The last column has no comma, so each line is read both ways.
    have bare := columnLine?_field plainColumn made target separates_lineEnd
    have ended := columnLine?_field plainColumn made target separates_commaEnd
    have within := isLine_field plainColumn made
    rw [String.append_empty] at bare
    refine ⟨⟨within, bare⟩, ?_, ended⟩
    rw [Text.isLine_append, within]
    decide
  obtain ⟨within, read⟩ := (List.forall₂_and_left _ _).mp each
  have columnsGiven := TableDefinition.columns_ne_nil_of_validate
    (Outcome.mapError_eq_ok.mp passed)
  have fieldsGiven : commaEnded fields ≠ [] := by
    intro nothing
    rw [nothing] at read
    exact columnsGiven (List.forall₂_nil_left_iff.mp read)
  have laidOut : LaidOut .sequelize defined ([openingLine defined.table] ++ commaEnded fields ++
      ["\x7d, \x7b", namingLine defined.table, "  timestamps: false", "\x7d);"]) := by
    refine LaidOut.mk _ _ _ rfl rfl ?_ read
    have third : ([openingLine defined.table] ++ ["\x7d, \x7b", namingLine defined.table,
        "  timestamps: false", "\x7d);"])[Target.sequelize.namingLine]? =
          some (namingLine defined.table) := rfl
    rw [third, Option.bind_some, tableLine?_namingLine]
  rw [code_eq defined.table fields fieldsGiven, Text.lines_intercalate (by decide)]
  · simpa using laidOut
  · simp only [List.forall_mem_append, List.forall_mem_cons]
    exact ⟨⟨isLine_openingLine _, within, by decide, isLine_namingLine _, by decide, by simp⟩,
      by decide, by simp⟩

end Sequelize

end OrmCode
