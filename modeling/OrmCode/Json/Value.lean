/-!
# Values of JSON

A number keeps its numeral, and an object its members in order, repeated ones
included.  A text may have been written with halves of surrogate pairs; then it
is no text of characters, and its content is missing.
-/

namespace OrmCode

namespace Json

inductive Value
  | null
  | boolean (value : Bool)
  | number (numeral : String)
  | text (content? : Option String)
  | array (items : List Value)
  | object (members : List (Option String × Value))

namespace Value

def ofText (content : String) : Value :=
  text (some content)

/-- An object whose members have the given names and texts. -/
def ofTexts (members : List (String × String)) : Value :=
  object (members.map fun (name, content) => (some name, ofText content))

end Value

end Json

end OrmCode
