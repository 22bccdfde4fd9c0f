import LoopKernels.Json.Value

/-!
# Records in JSON

A record is written as an object with one member per field. It may also be given
as an array that lists the fields in their order, trailing fields that have a
default left out. Members with unknown keys are ignored; a known key may stand
only once. A constant is written as its name, or as an object whose only key is
the name and whose value says nothing.
-/

namespace LoopKernels.Json

/-- The fields of a record as they were written. -/
inductive Fields where
  | named (members : List (String × Json))
  | listed (items : List Json)

namespace Fields

/-- The fields of an object or of an array; no other value is a record. -/
def ofJson? : Json → Option Fields
  | obj members => some (named members)
  | arr items => some (listed items)
  | _ => none

/-- All values written for a key. -/
def valuesOf (key : String) (members : List (String × Json)) : List Json :=
  (members.filter fun entry => entry.1 == key).map Prod.snd

/-- The value written for a key, absent when there is none; a second one is refused. -/
def single? (members : List (String × Json)) (key : String) : Option (Option Json) :=
  match valuesOf key members with
  | [] => some none
  | [value] => some (some value)
  | _ => none

/-- One entry per field of the record, in the order of the keys. -/
def read? (keys : List String) : Fields → Option (List (Option Json))
  | named members => keys.mapM (single? members)
  | listed items =>
    if items.length ≤ keys.length then
      some (items.map some ++ List.replicate (keys.length - items.length) none)
    else none

end Fields

/-- The fields of a record given by a value. -/
def fields? (keys : List String) (value : Json) : Option (List (Option Json)) :=
  Fields.ofJson? value >>= Fields.read? keys

/-- An optional field: absent or null is no value. -/
def optional? {α : Type} (decode : Json → Option α) : Option Json → Option (Option α)
  | none => some none
  | some value => option? decode value

/-- A field with a default. -/
def defaulted? {α : Type} (default : α) (decode : Json → Option α) : Option Json → Option α
  | none => some default
  | some value => decode value

/-- A value that says nothing: null, and where the flag is set also an empty object. -/
def isUnit (emptyObject : Bool) : Json → Bool
  | null => true
  | obj [] => emptyObject
  | _ => false

/-- The name of a constant. -/
def constant? (emptyObject : Bool) : Json → Option String
  | str name => some name
  | obj [(name, value)] => if value.isUnit emptyObject then some name else none
  | _ => none

/-- The tag and the payload of a value written as an object with one member. -/
def tagged? : Json → Option (String × Json)
  | obj [entry] => some entry
  | _ => none

end LoopKernels.Json
