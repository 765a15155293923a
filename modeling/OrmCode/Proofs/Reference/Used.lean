import Mathlib.Data.List.TakeWhile
import OrmCode.Proofs.Definition.Sequelize
import OrmCode.Proofs.Definition.SqlAlchemy
import OrmCode.Proofs.Reference.Model

/-!
# Names that expressions use

An expression of code uses the names that its paths start with.  Those of a definition use the
names of their types and defaults, and neither keywords nor constants add to them.
-/

namespace OrmCode

open Javascript (Term)

namespace Javascript

/-- The name that a path of names starts with.  A numeral, a reserved word and the keyword of
an argument start with none. -/
def pathNames (reserved : List String) (path : String) : List String :=
  let name := path.toList.takeWhile (· != '.')
  if Text.isIdentifierCharacters name && !(reserved.map String.toList).contains name then
    [String.ofList name]
  else []

theorem pathNames_eq_nil (reserved : List String) {path : String}
    (noName : path.toList.head?.any Text.startsIdentifier = false) :
    pathNames reserved path = [] := by
  have refused : Text.isIdentifierCharacters (path.toList.takeWhile (· != '.')) = false := by
    cases characters : path.toList with
    | nil => rfl
    | cons first rest =>
        rw [characters, List.head?_cons, Option.any_some] at noName
        rw [List.takeWhile_cons]
        split
        · rw [Text.isIdentifierCharacters, noName, Bool.false_and]
        · rfl
  rw [pathNames, refused]
  rfl

theorem pathNames_congr (reserved : List String) {path other : String}
    (same : path.toList.takeWhile (· != '.') = other.toList.takeWhile (· != '.')) :
    pathNames reserved path = pathNames reserved other := by
  rw [pathNames, pathNames, same]

/-- An identifier that is no reserved word is a path of one name. -/
theorem pathNames_of_isIdentifier {reserved : List String} {name : String}
    (bare : Text.isIdentifier name = true) (free : name ∉ reserved) :
    pathNames reserved name = [name] := by
  have whole : name.toList.takeWhile (· != '.') = name.toList := by
    refine List.takeWhile_eq_self_iff.mpr fun character member => bne_iff_ne.mpr ?_
    rintro rfl
    have continues := Text.continues_of_isIdentifier bare _ member
    cases continues
  have different : (reserved.map String.toList).contains name.toList = false := by
    rw [← Bool.not_eq_true, List.contains_iff_mem, List.mem_map]
    rintro ⟨word, listed, same⟩
    exact free (String.toList_inj.mp same ▸ listed)
  rw [Text.isIdentifier] at bare
  rw [pathNames, whole, bare, different, String.ofList_toList]
  rfl

namespace Term

variable (reserved : List String)

mutual

/-- The names that a term uses; the key of an object is none of them. -/
def names : Term → List String
  | word path => pathNames reserved path
  | text _ => []
  | list (.call function) items => pathNames reserved function ++ namesOfAll items
  | list .array items => namesOfAll items
  | list .object items => namesOfValues items

def namesOfAll : List Term → List String
  | [] => []
  | term :: terms => names term ++ namesOfAll terms

/-- The names that the values of an object use. -/
def namesOfValues : List Term → List String
  | _ :: value :: terms => names value ++ namesOfValues terms
  | _ => []

end

theorem namesOfAll_eq_flatMap (terms : List Term) :
    namesOfAll reserved terms = terms.flatMap (names reserved) := by
  induction terms with
  | nil => rfl
  | cons term terms induction => rw [namesOfAll, induction, List.flatMap_cons]

theorem names_call (function : String) (items : List Term) :
    names reserved (list (.call function) items) =
      pathNames reserved function ++ items.flatMap (names reserved) := by
  rw [names, namesOfAll_eq_flatMap]

theorem namesOfValues_flatMap {Entry : Type} (key value : Entry → Term) (entries : List Entry) :
    namesOfValues reserved (entries.flatMap fun entry => [key entry, value entry]) =
      entries.flatMap fun entry => names reserved (value entry) := by
  induction entries with
  | nil => rfl
  | cons entry entries induction =>
      rw [List.flatMap_cons, List.flatMap_cons, ← induction]
      rfl

theorem names_objectTerm (entries : List (String × Term)) :
    names reserved (Sequelize.objectTerm entries) =
      entries.flatMap fun entry => names reserved entry.2 := by
  have values := namesOfValues_flatMap reserved
    (fun entry : String × Term => Sequelize.keyTerm entry.1) Prod.snd entries
  rw [Sequelize.objectTerm, names, ← values]

end Term

end Javascript

namespace Target

/-- The words that no name of a target can be. -/
def reserved : Target → List String
  | sequelize => Text.javascriptReserved
  | sqlAlchemy => Text.pythonReserved

end Target

/-- The names that a default is written with. -/
def DefaultValue.usedNames : DefaultValue → Target → List String
  | literal _, _ => []
  | currentTimestamp, .sequelize => ["DataTypes"]
  | currentTimestamp, .sqlAlchemy => ["func"]
  | expression _, .sequelize => ["sequelize"]
  | expression _, .sqlAlchemy => ["text"]

/-- The names that the field of a column is written with. -/
def Column.usedNames (column : Column) : Target → List String
  | .sequelize => "DataTypes" :: column.default?.toList.flatMap (·.usedNames .sequelize)
  | .sqlAlchemy =>
    "Column" :: (sqlAlchemyTypes.counterpart column.sqlType).name ::
      column.default?.toList.flatMap (·.usedNames .sqlAlchemy)

section Names

theorem pathNames_numeral (reserved : List String) {numeral : String}
    (plain : Text.isNumeral numeral = true) : Javascript.pathNames reserved numeral = [] := by
  apply Javascript.pathNames_eq_nil
  rw [Text.isNumeral, Bool.and_eq_true] at plain
  cases starts : numeral.toList.head? with
  | none => rfl
  | some first =>
      have allowed := plain.2
      rw [starts, Option.any_some, Bool.or_eq_true] at allowed
      rw [Option.any_some, Bool.eq_false_iff]
      intro name
      rcases allowed with digit | sign
      · rw [Text.isDigit_of_startsIdentifier name] at digit
        cases digit
      · revert name
        rcases List.mem_cons.mp (List.contains_iff_mem.mp sign) with rfl | later
        · decide
        · obtain rfl := List.mem_singleton.mp later
          decide

theorem pathNames_digits (reserved : List String) {digits : String}
    (whole : ColumnType.isDigits digits = true) : Javascript.pathNames reserved digits = [] := by
  apply Javascript.pathNames_eq_nil
  rw [ColumnType.isDigits, Bool.and_eq_true, List.all_eq_true] at whole
  cases characters : digits.toList with
  | nil => rfl
  | cons first rest =>
      have digit := whole.2 first (characters ▸ List.mem_cons_self)
      rw [List.head?_cons, Option.any_some, Bool.eq_false_iff]
      intro name
      rw [Text.isDigit_of_startsIdentifier name] at digit
      cases digit

theorem names_literalTerm {value : Literal} (plain : value.isPlain = true) :
    (Sequelize.literalTerm value).names Text.javascriptReserved = [] ∧
      (SqlAlchemy.literalTerm value).names Text.pythonReserved = [] := by
  cases value with
  | string value => exact ⟨rfl, rfl⟩
  | number numeral => exact ⟨pathNames_numeral _ plain, pathNames_numeral _ plain⟩
  | boolean value => cases value <;> decide +kernel
  | null => decide +kernel

/-- The names that the values of entries use. -/
def entryNames (target : Target) (entries : List (String × Term)) : List String :=
  entries.flatMap fun entry => entry.2.names target.reserved

theorem entryNames_append (target : Target) (first second : List (String × Term)) :
    entryNames target (first ++ second) = entryNames target first ++ entryNames target second :=
  List.flatMap_append

theorem entryNames_entry (target : Target) (name : String) {term? : Option Term}
    (constant : ∀ term ∈ term?, term.names target.reserved = []) :
    entryNames target (Sequelize.entry name term?) = [] := by
  cases term? with
  | none => rfl
  | some term => exact (List.flatMap_singleton _ _).trans (constant term rfl)

theorem entryNames_markers (target : Target) (column : Column) :
    entryNames target (target.markers.entries column) = [] := by
  have yes : (Term.word target.markers.yes).names target.reserved = [] := by
    cases target <;> decide +kernel
  have no : (Term.word target.markers.no).names target.reserved = [] := by
    cases target <;> decide +kernel
  have marked : ∀ (name : String) (mark : Bool), entryNames target (Sequelize.entry name
      (if mark then some (.word target.markers.yes) else none)) = [] := by
    intro name mark
    refine entryNames_entry target name fun term given => ?_
    cases mark <;> cases given
    exact yes
  have unmarked : ∀ (name : String) (mark : Bool), entryNames target (Sequelize.entry name
      (if mark then none else some (.word target.markers.no))) = [] := by
    intro name mark
    refine entryNames_entry target name fun term given => ?_
    cases mark <;> cases given
    exact no
  simp only [Markers.entries, entryNames_append, marked, unmarked, List.append_nil]

theorem entryNames_default (target : Target) {default? : Option DefaultValue}
    (plain : ∀ value ∈ default?, value.isPlain = true) :
    entryNames target (target.defaultEntries default?) =
      default?.toList.flatMap (·.usedNames target) := by
  cases default? with
  | none => cases target <;> rfl
  | some value =>
      cases value with
      | literal constant =>
          obtain ⟨javascript, python⟩ := names_literalTerm
            (plain _ rfl : (DefaultValue.literal constant).isPlain = true)
          cases target with
          | sequelize => exact (List.flatMap_singleton _ _).trans javascript
          | sqlAlchemy => exact (List.flatMap_singleton _ _).trans python
      | currentTimestamp => cases target <;> decide +kernel
      | expression sql => cases target <;> rfl

theorem entryNames_entries (target : Target) {column : Column}
    (plain : ∀ value ∈ column.default?, value.isPlain = true) :
    entryNames target (target.entries column) =
      column.default?.toList.flatMap (·.usedNames target) := by
  rw [Target.entries, entryNames_append, entryNames_markers, entryNames_default target plain,
    List.nil_append]

/-- The lengths of a type use no names. -/
theorem names_typeTerm (reserved : List String) (type : TargetType) {arguments : List String}
    (digits : ∀ argument ∈ arguments, ColumnType.isDigits argument = true) :
    (type.term arguments).names reserved = Javascript.pathNames reserved type.name := by
  rw [TargetType.term]
  split
  · have nothing : (arguments.map Term.word).flatMap (Term.names reserved) = [] := by
      rw [List.flatMap_map, List.flatMap_eq_nil_iff]
      exact fun argument member => pathNames_digits reserved (digits argument member)
    rw [Term.names_call, nothing, List.append_nil]
  · rw [Term.names]

end Names

theorem name_of_mem_entry {name : String} {term? : Option Term} {given : String × Term}
    (member : given ∈ Sequelize.entry name term?) : given.1 = name := by
  obtain ⟨term, -, rfl⟩ := List.mem_map.mp member
  rfl

/-- The keywords of arguments are no names. -/
theorem pathNames_keyword {column : Column} :
    ∀ given ∈ Target.sqlAlchemy.entries column,
      Javascript.pathNames Text.pythonReserved given.1 = [] := by
  have keywords : ∀ keyword ∈ ["nullable=", "primary_key=", "autoincrement=", "unique=",
      "default=", "server_default="], Javascript.pathNames Text.pythonReserved keyword = [] := by
    decide +kernel
  intro given member
  simp only [Target.entries, Markers.entries, List.mem_append] at member
  rcases member with (((marker | marker) | marker) | marker) | default
  · exact keywords _ (by simp [name_of_mem_entry marker, Target.markers])
  · exact keywords _ (by simp [name_of_mem_entry marker, Target.markers])
  · exact keywords _ (by simp [name_of_mem_entry marker, Target.markers])
  · exact keywords _ (by simp [name_of_mem_entry marker, Target.markers])
  · obtain ⟨value, -, rfl⟩ := List.mem_map.mp default
    exact keywords _ (by cases value <;> simp [SqlAlchemy.defaultEntry])

theorem names_argumentTerms (column : Column) :
    ((Target.sqlAlchemy.entries column).map SqlAlchemy.argumentTerms).flatten.flatMap
        (Term.names Text.pythonReserved) =
      entryNames .sqlAlchemy (Target.sqlAlchemy.entries column) := by
  rw [← List.flatMap_def, List.flatMap_assoc, entryNames]
  refine List.flatMap_congr fun given member => ?_
  rw [SqlAlchemy.argumentTerms, List.flatMap_cons, List.flatMap_singleton, Term.names,
    pathNames_keyword given member]
  rfl

/-- The types of SQLAlchemy are words without an underscore. -/
theorem plain_of_sqlAlchemyTypes (written : String) :
    Text.isIdentifier (sqlAlchemyTypes.counterpart written).name = true ∧
      '_' ∉ (sqlAlchemyTypes.counterpart written).name.toList ∧
      (sqlAlchemyTypes.counterpart written).name ∉ Text.pythonReserved := by
  have types : ∀ type ∈ sqlAlchemyTypes.fallback :: sqlAlchemyTypes.entries.map Prod.snd,
      Text.isIdentifier type.name = true ∧ '_' ∉ type.name.toList ∧
        type.name ∉ Text.pythonReserved := by
    decide +kernel
  exact types _ (sqlAlchemyTypes.counterpart_mem written)

end OrmCode
