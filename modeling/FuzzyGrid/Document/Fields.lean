import FuzzyGrid.Json.Reader

/-!
# Fields of a record

A record is written as an object with named fields or as an array of its
fields in order.  Other members of an object are passed over; a field that
occurs twice is refused, as is an array that is too long.
-/

namespace FuzzyGrid.Document

/-- The value of a field of an object, if it occurs.  None where it occurs
twice. -/
def objectField? (members : List (String × Json)) (name : String) :
    Option (Option Json) :=
  match members.filter fun member => member.1 == name with
  | [] => some none
  | [member] => some (some member.2)
  | _ => none

/-- The values of the fields of a record, in the order of their names. -/
def fields? (names : List String) : Json → Option (List (Option Json))
  | .object members => names.mapM (objectField? members)
  | .array items =>
    if items.length ≤ names.length then
      some (items.map some ++ List.replicate (names.length - items.length) none)
    else none
  | _ => none

/-- Read a field that has to be there. -/
def required? {β : Type} (read : Json → Option β) (field : Option Json) : Option β :=
  field.bind read

/-- Read a field that may be missing. -/
def optional? {β : Type} (other : β) (read : Json → Option β)
    (field : Option Json) : Option β :=
  match field with
  | none => some other
  | some value => read value

end FuzzyGrid.Document
