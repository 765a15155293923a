import OrmCode.Converter
import OrmCode.Json.Fields
import OrmCode.Json.Reader

/-!
# Requests

A request names a statement and a target.  It is answered with code under the
status 200, or with the description of a fault under the status of that fault.
-/

namespace OrmCode

/-- A request, either part of which may be missing. -/
structure Request where
  sql? : Option String := none
  target? : Option String := none
  deriving DecidableEq

/-- The description of a fault. -/
structure Refusal where
  headline : String
  code : String
  details : String
  deriving DecidableEq

inductive Answer
  | code (text : String)
  | refusal (fault : Fault)
  deriving DecidableEq

namespace Request

def missingParts : String :=
  "SQL code and ORM type are required."

/-- What is said of every other request that no code is made for. -/
def conversionFailed : String :=
  "Failed to convert SQL to ORM"

/-- The names of the parts of a request in JSON. -/
def fieldNames : List String :=
  ["sqlCode", "orm"]

/-- A part of a request, which may be absent or null. -/
def part? : Option Json.Value → Option (Option String)
  | none => some none
  | some .null => some none
  | some (.text (some content)) => some (some content)
  | some _ => none

def ofValue? (value : Json.Value) : Option Request :=
  match Json.fields? fieldNames value with
  | some [sql, target] => do
    return { sql? := ← part? sql, target? := ← part? target }
  | _ => none

def ofJson (body : String) : Except Fault Request :=
  match (Json.parse? body).bind ofValue? with
  | some request => .ok request
  | none => .error (.badRequest "malformed request")

/-- The value of JSON that a request is, without the missing parts. -/
def toValue (request : Request) : Json.Value :=
  .ofTexts ((request.sql?.toList.map fun sql => ("sqlCode", sql)) ++
    (request.target?.toList.map fun target => ("orm", target)))

/-- A part of a request, if it is there and not blank. -/
def present? (part? : Option String) : Option String :=
  part?.filter fun content => !Text.allBlank content

/-- The statement and the target of a request. -/
def parts (request : Request) : Except Fault (String × String) :=
  match present? request.sql?, present? request.target? with
  | some sql, some target => .ok (sql, target)
  | _, _ => .error (.badRequest missingParts)

def handle {m : Type → Type} [Monad m] (converter : Converter m) (request : Request) :
    m (Except Fault String) :=
  match request.parts with
  | .ok (sql, target) => converter.convert target sql
  | .error fault => return .error fault

def respond {m : Type → Type} [Monad m] (converter : Converter m) (request : Request) :
    m Answer := do
  match ← request.handle converter with
  | .ok code => return .code code
  | .error fault => return .refusal fault

end Request

namespace Fault

/-- The line over the description of a fault. -/
def headline (fault : Fault) : String :=
  if fault = .badRequest Request.missingParts then Request.missingParts
  else Request.conversionFailed

def refusal (fault : Fault) : Refusal :=
  ⟨fault.headline, fault.code, fault.message⟩

end Fault

namespace Refusal

def toValue (refusal : Refusal) : Json.Value :=
  .ofTexts [("code", refusal.code), ("details", refusal.details), ("error", refusal.headline)]

end Refusal

namespace Answer

def status : Answer → Nat
  | code _ => 200
  | refusal fault => fault.status

/-- The value of JSON that an answer is, with members in the order of their names. -/
def toValue : Answer → Json.Value
  | code text => .ofTexts [("ormCode", text)]
  | refusal fault => fault.refusal.toValue

end Answer

end OrmCode
