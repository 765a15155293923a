import OrmCode.Proofs.Converter.Failure
import OrmCode.Proofs.Reading

/-!
# The length of statements

The length that settings allow is a gate: a text of more bytes is refused whatever it
holds, and one that passes is converted as under every other length that it passes.
-/

namespace OrmCode

namespace Settings

/-- The settings with another length that statements may have. -/
def withLength (settings : Settings) (length : Nat) : Settings :=
  { settings with maxLength := length }

@[simp] theorem maxLength_withLength (settings : Settings) (length : Nat) :
    (settings.withLength length).maxLength = length := rfl

@[simp] theorem unknownTypes_withLength (settings : Settings) (length : Nat) :
    (settings.withLength length).unknownTypes = settings.unknownTypes := rfl

@[simp] theorem unknownOperators_withLength (settings : Settings) (length : Nat) :
    (settings.withLength length).unknownOperators = settings.unknownOperators := rfl

variable {settings : Settings} {dialect : Sql.Dialect}

theorem exists_dialect?_of_validate (usable : settings.validate = .ok ()) :
    ∃ dialect, settings.dialect? = .ok dialect := by
  obtain ⟨dialect, known, -⟩ := Outcome.map_eq_ok.mp usable
  exact ⟨dialect, known⟩

/-- Settings that can be used name the same dialect whatever length they allow. -/
theorem dialect?_withLength {length : Nat} (known : settings.dialect? = .ok dialect)
    (usable : (settings.withLength length).validate = .ok ()) :
    (settings.withLength length).dialect? = .ok dialect := by
  obtain ⟨other, knownToo⟩ := exists_dialect?_of_validate usable
  have named := ofName?_of_dialect? known
  have namedToo := ofName?_of_dialect? knownToo
  rw [knownToo, Option.some.inj (named.symm.trans namedToo)]

end Settings

/-- Of the settings code depends only on what becomes of unknown types and operators. -/
theorem HandlerTable.generate_congr {settings other : Settings}
    (types : settings.unknownTypes = other.unknownTypes)
    (operators : settings.unknownOperators = other.unknownOperators)
    (statement : Statement) (target : Target) :
    complete.generate settings statement target = complete.generate other statement target := by
  obtain ⟨dialect, length, unknownTypes, unknownOperators⟩ := settings
  obtain ⟨otherDialect, otherLength, otherTypes, otherOperators⟩ := other
  obtain rfl : unknownTypes = otherTypes := types
  obtain rfl : unknownOperators = otherOperators := operators
  cases statement <;> cases target <;> rfl

namespace Reading

/-- The statement that a text of any length holds. -/
def readContent (dialect : Sql.Dialect) (text : String) : Except Fault Statement := do
  let parsed ← (onlyStatement dialect text).mapError Flaw.fault
  (Lowering.statement parsed).mapError Lowering.Unsupported.fault

/-- A length is looked at before the content of a text, and only then. -/
theorem read_of_visible {text : String} (visible : Text.allBlank text = false)
    (dialect : Sql.Dialect) (maxLength : Nat) :
    read dialect maxLength text =
      if maxLength < text.utf8ByteSize then
        .error (Flaw.tooLong text.utf8ByteSize maxLength).fault
      else readContent dialect text := by
  rw [read, checkSize, if_neg (by simp [visible])]
  split <;> rfl

theorem Flaw.reason_tooLong (bytes greatest : Nat) :
    (tooLong bytes greatest).reason =
      "statement too long: " ++ toString bytes ++ " bytes (max " ++ toString greatest ++ ")" := rfl

/-- The reason that a length gives is told from the others by how it starts. -/
theorem Flaw.prefix_reason_iff {flaw : Flaw} :
    "statement too long: ".toList <+: flaw.reason.toList ↔
      ∃ bytes greatest, flaw = tooLong bytes greatest := by
  cases flaw with
  | tooLong bytes greatest =>
      rw [reason_tooLong, String.append_assoc, String.append_assoc, String.append_assoc,
        String.toList_append]
      exact iff_of_true (List.prefix_append _ _) ⟨bytes, greatest, rfl⟩
  | _ => exact iff_of_false (by decide) (by simp)

theorem Flaw.message_fault (flaw : Flaw) :
    flaw.fault.message = "SQL parse error: " ++ flaw.reason := rfl

theorem Flaw.message_tooLong (bytes greatest : Nat) :
    (tooLong bytes greatest).fault.message =
      "SQL parse error: statement too long: " ++ toString bytes ++ " bytes (max " ++
        toString greatest ++ ")" := by
  have start : "SQL parse error: statement too long: " =
      "SQL parse error: " ++ "statement too long: " := by decide +kernel
  rw [message_fault, reason_tooLong, start]
  simp only [String.append_assoc]

theorem Flaw.eq_tooLong_of_fault_eq {flaw : Flaw} {bytes greatest : Nat}
    (same : flaw.fault = (tooLong bytes greatest).fault) :
    ∃ bytes greatest, flaw = tooLong bytes greatest := by
  rw [← prefix_reason_iff, Fault.unreadable.inj same, prefix_reason_iff]
  exact ⟨bytes, greatest, rfl⟩

/-- The content of a text is never refused as too long. -/
theorem readContent_ne_tooLong (dialect : Sql.Dialect) (text : String) (bytes greatest : Nat) :
    readContent dialect text ≠ .error (Flaw.tooLong bytes greatest).fault := by
  intro refused
  obtain notOne | ⟨parsed, -, notLowered⟩ := Outcome.bind_eq_error.mp refused
  · obtain ⟨flaw, only, same⟩ := Outcome.mapError_eq_error.mp notOne
    obtain ⟨otherBytes, otherGreatest, rfl⟩ := Flaw.eq_tooLong_of_fault_eq same
    unfold onlyStatement at only
    split at only <;> cases only
  · obtain ⟨reason, -, same⟩ := Outcome.mapError_eq_error.mp notLowered
    cases same

end Reading

namespace Converter

variable {settings : Settings} {converter : Converter Id} {dialect : Sql.Dialect}

/-- What a text that passes every length is converted to. -/
def convertContent (dialect : Sql.Dialect) (settings : Settings) (target : Target)
    (text : String) : Except Fault String := do
  let statement ← Reading.readContent dialect text
  HandlerTable.complete.generate settings statement target

theorem convertContent_withLength (dialect : Sql.Dialect) (settings : Settings) (length : Nat)
    (target : Target) (text : String) :
    convertContent dialect (settings.withLength length) target text =
      convertContent dialect settings target text :=
  bind_congr fun statement => HandlerTable.generate_congr (settings.unknownTypes_withLength length)
    (settings.unknownOperators_withLength length) statement target

theorem convertContent_ne_tooLong (dialect : Sql.Dialect) (settings : Settings) (target : Target)
    (text : String) (bytes greatest : Nat) :
    convertContent dialect settings target text ≠
      .error (Reading.Flaw.tooLong bytes greatest).fault := by
  intro refused
  obtain unread | ⟨statement, -, ungenerated⟩ := Outcome.bind_eq_error.mp refused
  · exact Reading.readContent_ne_tooLong dialect text bytes greatest unread
  · cases HandlerTable.isOfStatement_of_generate ungenerated

/-- The converter of usable settings has the length in its reader only. -/
theorem ofSettings_of_dialect? (known : settings.dialect? = .ok dialect) :
    ofSettings settings =
      .ok { read := Reading.read dialect settings.maxLength, settings } := by
  rw [ofSettings, Reading.ofSettings, known]
  rfl

/-- A text that is not blank is looked at for its length, and then for its content. -/
theorem convertFor_of_visible (known : settings.dialect? = .ok dialect)
    (usable : ofSettings settings = .ok converter) {text : String}
    (visible : Text.allBlank text = false) (target : Target) :
    Id.run (converter.convertFor target text) =
      if settings.maxLength < text.utf8ByteSize then
        .error (Reading.Flaw.tooLong text.utf8ByteSize settings.maxLength).fault
      else convertContent dialect settings target text := by
  obtain rfl := Except.ok.inj ((ofSettings_of_dialect? known).symm.trans usable)
  have seen : ¬Text.allBlank text = true := by simp [visible]
  rw [run_convertFor, if_neg seen]
  dsimp only
  rw [Reading.read_of_visible visible]
  split <;> rfl

/-- Whether a converter refuses a text for its length exactly if it has more bytes than a limit. -/
def IsLimitedTo (converter : Converter Id) (limit : Nat) : Prop :=
  ∀ targetText target text, Target.ofText? targetText = some target →
    Text.allBlank text = false →
    (limit < text.utf8ByteSize →
      ∃ fault, Id.run (converter.convert targetText text) = .error fault ∧
        fault.code = "PARSE_ERROR" ∧
        fault.message = "SQL parse error: statement too long: " ++ toString text.utf8ByteSize ++
          " bytes (max " ++ toString limit ++ ")") ∧
    (text.utf8ByteSize ≤ limit → ∀ bytes greatest,
      Id.run (converter.convert targetText text) ≠
        .error (Reading.Flaw.tooLong bytes greatest).fault)

theorem isLimitedTo_maxLength (known : settings.dialect? = .ok dialect)
    (usable : ofSettings settings = .ok converter) :
    converter.IsLimitedTo settings.maxLength := by
  intro targetText target text named visible
  rw [convert, named, convertFor_of_visible known usable visible]
  constructor
  · intro long
    rw [if_pos long]
    exact ⟨_, rfl, rfl, Reading.Flaw.message_tooLong _ _⟩
  · intro short
    rw [if_neg (Nat.not_lt.mpr short)]
    exact convertContent_ne_tooLong dialect settings target text

/-- The length that settings allow is a gate.  Each of two converters whose settings differ in
it refuses the longer texts and no other for their length, and both give the same for a text
that is too long for neither. -/
theorem length_gates {length : Nat} (usable : settings.validate = .ok ())
    (usableToo : (settings.withLength length).validate = .ok ()) :
    ∃ converter other, ofSettings settings = .ok converter ∧
      ofSettings (settings.withLength length) = .ok other ∧
      converter.IsLimitedTo settings.maxLength ∧ other.IsLimitedTo length ∧
      ∀ targetText target text, Target.ofText? targetText = some target →
        Text.allBlank text = false → text.utf8ByteSize ≤ settings.maxLength →
        text.utf8ByteSize ≤ length →
        Id.run (converter.convert targetText text) = Id.run (other.convert targetText text) := by
  obtain ⟨dialect, known⟩ := Settings.exists_dialect?_of_validate usable
  have knownToo := Settings.dialect?_withLength known usableToo
  have made := ofSettings_of_dialect? known
  have madeToo := ofSettings_of_dialect? knownToo
  refine ⟨_, _, made, madeToo, isLimitedTo_maxLength known made,
    isLimitedTo_maxLength knownToo madeToo, ?_⟩
  intro targetText target text named visible short shortToo
  simp only [convert, named]
  rw [convertFor_of_visible known made visible, if_neg (Nat.not_lt.mpr short),
    convertFor_of_visible knownToo madeToo visible, Settings.maxLength_withLength,
    if_neg (Nat.not_lt.mpr shortToo), convertContent_withLength]

/-- A letter of two bytes makes a text of 27 characters too long for 27 bytes, not for 28. -/
theorem length_gates_accented :
    ∃ converter other, ofSettings { maxLength := 28 } = .ok converter ∧
      ofSettings { maxLength := 27 } = .ok other ∧
      (∀ bytes greatest, Id.run (converter.convert "sequelize" "DELETE FROM t WHERE a = 'é'") ≠
        .error (Reading.Flaw.tooLong bytes greatest).fault) ∧
      (∃ fault, Id.run (other.convert "sequelize" "DELETE FROM t WHERE a = 'é'") = .error fault ∧
        fault.code = "PARSE_ERROR" ∧
        fault.message = "SQL parse error: statement too long: 28 bytes (max 27)") ∧
      Id.run (converter.convert "sqlalchemy" "DELETE FROM é") =
        Id.run (other.convert "sqlalchemy" "DELETE FROM é") := by
  obtain ⟨converter, other, made, madeToo, limited, limitedToo, alike⟩ :=
    @length_gates { maxLength := 28 } 27 rfl rfl
  have fits := (limited "sequelize" .sequelize "DELETE FROM t WHERE a = 'é'" (by decide +kernel)
    (by decide +kernel)).2 (by decide +kernel)
  obtain ⟨fault, refused, coded, worded⟩ :=
    (limitedToo "sequelize" .sequelize "DELETE FROM t WHERE a = 'é'" (by decide +kernel)
      (by decide +kernel)).1 (by decide +kernel)
  have same := alike "sqlalchemy" .sqlAlchemy "DELETE FROM é" (by decide +kernel)
    (by decide +kernel) (by decide +kernel) (by decide +kernel)
  exact ⟨converter, other, made, madeToo, fits,
    ⟨fault, refused, coded, worded.trans (by decide +kernel)⟩, same⟩

end Converter

end OrmCode
