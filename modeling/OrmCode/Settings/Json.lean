import OrmCode.Json.Fields
import OrmCode.Json.Reader
import OrmCode.Settings
import OrmCode.Text.WholeNumber

/-!
# Settings in JSON

Settings are a record of up to four fields; a missing field has its default.
-/

namespace OrmCode

namespace Settings

/-- The reason why a text in JSON gives no settings. -/
inductive JsonFlaw
  | malformed
  | unusable (flaw : Flaw)
  deriving DecidableEq

/-- The wording of the reason. -/
def JsonFlaw.message : JsonFlaw → String
  | malformed => "invalid config JSON: malformed settings"
  | unusable flaw => flaw.message

/-- The names of the fields in the order of an array. -/
def fieldNames : List String :=
  ["dialect", "max_statement_len", "unknown_types", "unknown_operators"]

def textOf : Json.Value → Option String
  | .text content? => content?
  | _ => none

def lengthOf : Json.Value → Option Nat
  | .number numeral => Text.count? numeral
  | _ => none

/-- The policy in a field: its name, or an object with that name and nothing in it. -/
def policyOf : Json.Value → Option Policy
  | .text (some name) => Policy.ofName? name
  | .object [(some name, .null)] => Policy.ofName? name
  | _ => none

/-- What a field says, or the default of a missing one. -/
def fieldOr {α : Type} (default : α) (decode : Json.Value → Option α) :
    Option Json.Value → Option α
  | none => some default
  | some value => decode value

def ofValue? (value : Json.Value) : Option Settings :=
  let defaults : Settings := {}
  match Json.fields? fieldNames value with
  | some [dialect, maxLength, unknownTypes, unknownOperators] => do
    return {
      dialect := ← fieldOr defaults.dialect textOf dialect
      maxLength := ← fieldOr defaults.maxLength lengthOf maxLength
      unknownTypes := ← fieldOr defaults.unknownTypes policyOf unknownTypes
      unknownOperators := ← fieldOr defaults.unknownOperators policyOf unknownOperators }
  | _ => none

/-- The usable settings that a text in JSON gives. -/
def ofJson (text : String) : Except JsonFlaw Settings :=
  match (Json.parse? text).bind ofValue? with
  | none => .error .malformed
  | some settings => do
    settings.validate.mapError JsonFlaw.unusable
    return settings

end Settings

end OrmCode
