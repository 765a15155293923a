import OrmCode.Json.Value

/-!
# Records in JSON

A record is an object that has some of its fields as members, or an array that
has the values of its first fields.  Other members of the object do not matter,
but none of the fields may be there twice.
-/

namespace OrmCode

namespace Json

/-- The names of the members of an object, if all of them are texts of characters. -/
def names? (members : List (Option String × Value)) : Option (List String) :=
  members.mapM Prod.fst

def valuesOf (name : String) (members : List (Option String × Value)) : List Value :=
  (members.filter fun member => member.1 == some name).map Prod.snd

/-- The value of a field of an object, if there is one; two are too many. -/
def field? (members : List (Option String × Value)) (name : String) : Option (Option Value) :=
  match valuesOf name members with
  | [] => some none
  | [value] => some (some value)
  | _ => none

def fields? (fieldNames : List String) : Value → Option (List (Option Value))
  | .object members =>
    (names? members).bind fun _ => fieldNames.mapM (field? members)
  | .array items =>
    if items.length ≤ fieldNames.length then
      some (items.map some ++ List.replicate (fieldNames.length - items.length) none)
    else
      none
  | _ => none

end Json

end OrmCode
