import OrmCode.Target
import OrmCode.Text.Lines

/-!
# Fields of generated models

The code of a model has one line for each field.  From these lines the names of
the fields and what is said about them can be taken back.
-/

namespace OrmCode

/-- A field of a model: its name and what is said about it. -/
structure ModelField where
  name : String
  text : String
  deriving DecidableEq

namespace ModelField

/-- The field on a line of a model definition in JavaScript. -/
def ofDefinitionLine? (line : String) : Option ModelField := do
  let indented ← Text.stripStart? "  " line
  let (name, text) ← Text.splitOnceAt? ": " (Text.dropAtEnd ',' indented)
  return ⟨Text.dropAtEnds '\x27' name, text⟩

/-- The field on a line of a class in Python. -/
def ofClassLine? (line : String) : Option ModelField := do
  let indented ← Text.stripStart? "    " line
  let (name, rest) ← Text.splitOnceAt? " = Column(" indented
  return ⟨name, (Text.stripEnd? ")" rest).getD rest⟩

end ModelField

/-- The fields of a model definition in JavaScript, which end at a closing brace. -/
def definitionFields (code : String) : List ModelField :=
  (((Text.lines code).drop 1).takeWhile fun line =>
    line.toList.head? != some '\x7d').filterMap ModelField.ofDefinitionLine?

/-- The fields of a class in Python. -/
def classFields (code : String) : List ModelField :=
  (Text.lines code).filterMap ModelField.ofClassLine?

def modelFields : Target → String → List ModelField
  | .sequelize => definitionFields
  | .sqlAlchemy => classFields

end OrmCode
