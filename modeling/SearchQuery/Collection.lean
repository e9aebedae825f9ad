import SearchQuery.Json.Shape

namespace SearchQuery

-- Records in the order of their hits, with the number of matches over all pages.
structure Collection (α : Type) where
  items : List α
  total : Nat

namespace Collection

variable {α : Type}

def empty (total : Nat) : Collection α := ⟨[], total⟩

def toJson (encode : α → Json) (collection : Collection α) : Json :=
  .object [("items", .array (collection.items.map encode)), ("total", .nat collection.total)]

def ofJson? (decode : Json → Option α) (value : Json) : Option (Collection α) := do
  match ← value.slots ["items", "total"] with
  | [items, total] => return ⟨← items.required (Json.items? decode), ← total.required Json.word?⟩
  | _ => none

end Collection

end SearchQuery
