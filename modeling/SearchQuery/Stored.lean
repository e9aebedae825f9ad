import SearchQuery.Clause.Basic
import SearchQuery.Json.Shape
import SearchQuery.Sort
import SearchQuery.Target

namespace SearchQuery

-- The parts of a search as records of their own, the way they are kept between searches. Reading
-- one back takes null for a member that is not set.

def Connector.ofStored? (value : Json) : Option Connector := value.name?.bind Connector.ofName?

namespace SortDirection

def ofName? (name : String) : Option SortDirection :=
  if name = "asc" then some .asc else if name = "desc" then some .desc else none

def ofStored? (value : Json) : Option SortDirection := value.name?.bind ofName?

end SortDirection

namespace SortField

def toStored (sort : SortField) : Json :=
  .object [("field", .string sort.field), ("direction", .string sort.direction.name)]

def ofStored? (value : Json) : Option SortField := do
  match ← value.slots ["field", "direction"] with
  | [field, direction] =>
    return ⟨← field.required Json.string?, ← direction.required SortDirection.ofStored?⟩
  | _ => none

end SortField

namespace ScoreScript

def ofStored? (value : Json) : Option ScoreScript := do
  match ← value.slots ["source", "lang", "params"] with
  | [source, lang, params] =>
    return {
      source := ← source.required Json.string?
      lang := ← lang.optional (Json.nullable Json.string?)
      params := ← params.withDefault [] Json.fields? }
  | _ => none

end ScoreScript

namespace Target

def toStored (target : Target) : Json :=
  .object (("index", .string target.index) ::
    target.docType.toList.map fun docType => ("doc_type", .string docType))

def ofStored? (value : Json) : Option Target := do
  match ← value.slots ["index", "doc_type"] with
  | [index, docType] =>
    return ⟨← index.required Json.string?,
      ← docType.withDefault none (Json.nullable Json.string?)⟩
  | _ => none

end Target

namespace RangeBounds

def toStored (bounds : RangeBounds) : Json := .object (Json.present bounds.layout)

def ofSlots? : List Slot → Option RangeBounds
  | [gte, gt, lte, lt] => do
    return ⟨← gte.optional (Json.nullable Json.anyValue), ← gt.optional (Json.nullable Json.anyValue),
      ← lte.optional (Json.nullable Json.anyValue), ← lt.optional (Json.nullable Json.anyValue)⟩
  | _ => none

def ofStored? (value : Json) : Option RangeBounds := do
  ofSlots? (← value.slots ["gte", "gt", "lte", "lt"])

end RangeBounds

structure TermQuery where
  field : String
  value : Json

structure PhraseQuery where
  field : String
  phrase : Json

structure ExistsQuery where
  field : String
  deriving DecidableEq

-- A range query keeps its bounds beside its field, so it has no form as an array.
structure RangeQuery where
  field : String
  bounds : RangeBounds

namespace TermQuery

def toStored (query : TermQuery) : Json :=
  .object [("field", .string query.field), ("value", query.value)]

def ofStored? (value : Json) : Option TermQuery := do
  match ← value.slots ["field", "value"] with
  | [field, value] => return ⟨← field.required Json.string?, ← value.required Json.anyValue⟩
  | _ => none

end TermQuery

namespace PhraseQuery

def toStored (query : PhraseQuery) : Json :=
  .object [("field", .string query.field), ("phrase", query.phrase)]

def ofStored? (value : Json) : Option PhraseQuery := do
  match ← value.slots ["field", "phrase"] with
  | [field, phrase] => return ⟨← field.required Json.string?, ← phrase.required Json.anyValue⟩
  | _ => none

end PhraseQuery

namespace ExistsQuery

def toStored (query : ExistsQuery) : Json := .object [("field", .string query.field)]

def ofStored? (value : Json) : Option ExistsQuery := do
  match ← value.slots ["field"] with
  | [field] => return ⟨← field.required Json.string?⟩
  | _ => none

end ExistsQuery

namespace RangeQuery

def toStored (query : RangeQuery) : Json :=
  .object (("field", .string query.field) :: Json.present query.bounds.layout)

def ofStored? : Json → Option RangeQuery
  | .object fields => do
    let field ← (Json.slotOfField fields "field").required Json.string?
    return ⟨field, ← RangeBounds.ofSlots? (["gte", "gt", "lte", "lt"].map (Json.slotOfField fields))⟩
  | _ => none

end RangeQuery

end SearchQuery
