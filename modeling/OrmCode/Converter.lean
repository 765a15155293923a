import OrmCode.Code.HandlerTable
import OrmCode.Reading

/-!
# Converters

A converter reads a statement and has code made of it.  The target is found out
before anything is read, so an unknown target never reaches the reader.
-/

namespace OrmCode

/-- Makes code of statements as texts. -/
structure Converter (m : Type → Type) where
  read : StatementReader m
  settings : Settings
  handlers : HandlerTable := .complete

namespace Converter

variable {m : Type → Type} [Monad m]

def convertFor (converter : Converter m) (target : Target) (text : String) :
    m (Except Fault String) :=
  if Text.allBlank text then
    return .error Reading.Flaw.blank.fault
  else do
    match ← converter.read text with
    | .ok statement =>
      return converter.handlers.generate converter.settings statement target
    | .error fault => return .error fault

/-- The code of a statement for the target that a text names. -/
def convert (converter : Converter m) (targetText text : String) : m (Except Fault String) :=
  match Target.ofText? targetText with
  | some target => converter.convertFor target text
  | none => return .error (.unknownTarget targetText)

/-- The converter that settings describe, if they can be used. -/
def ofSettings (settings : Settings) : Except Fault (Converter Id) :=
  (Reading.ofSettings settings).map fun read => { read, settings }

end Converter

/-- The code of a statement under the default settings. -/
def convert (targetText text : String) : Except Fault String := do
  let converter ← Converter.ofSettings {}
  Id.run (converter.convert targetText text)

end OrmCode
