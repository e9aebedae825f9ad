import SearchQuery.Json.Value

namespace SearchQuery

-- Records as JSON, written as an object of the fields that are set. They are read from such an
-- object or from an array of the fields in order of declaration, of which a tail may be missing.

inductive Slot where
  | given (value : Json)
  | missing
  | cut

namespace Slot

def required {α : Type} (decode : Json → Option α) : Slot → Option α
  | .given value => decode value
  | .missing => none
  | .cut => none

def withDefault {α : Type} (default : α) (decode : Json → Option α) : Slot → Option α
  | .given value => decode value
  | .missing => some default
  | .cut => some default

-- A field that may be null or absent from an object, but has its place in an array.
def optional {α : Type} (decode : Json → Option (Option α)) : Slot → Option (Option α)
  | .given value => decode value
  | .missing => some none
  | .cut => none

end Slot

namespace Json

def present (layout : List (String × Option Json)) : List (String × Json) :=
  layout.filterMap fun member => member.2.map (member.1, ·)

def slotsOfItems : List String → List Json → List Slot
  | [], _ => []
  | _ :: names, [] => .cut :: slotsOfItems names []
  | _ :: names, item :: items => .given item :: slotsOfItems names items

def slotOfField (fields : List (String × Json)) (name : String) : Slot :=
  match fields.lookup name with
  | some value => .given value
  | none => .missing

def slots (names : List String) : Json → Option (List Slot)
  | .object fields => some (names.map (slotOfField fields))
  | .array items =>
    if items.length ≤ names.length then some (slotsOfItems names items) else none
  | _ => none

def nullable {α : Type} (decode : Json → Option α) : Json → Option (Option α)
  | .null => some none
  | value => (decode value).map some

def anyValue (value : Json) : Option Json := some value

def items? {α : Type} (decode : Json → Option α) : Json → Option (List α)
  | .array items => items.mapM decode
  | _ => none

def strings? : Json → Option (List String) := items? string?

def fields? : Json → Option (List (String × Json))
  | .object fields => some fields
  | _ => none

def name? : Json → Option String
  | .string name => some name
  | .object [(name, .null)] => some name
  | _ => none

def single? : Json → Option (Binary .single)
  | .number value => some value.toSingle
  | _ => none

end Json

end SearchQuery
