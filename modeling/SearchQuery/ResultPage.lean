import SearchQuery.Error
import SearchQuery.Json.Shape

namespace SearchQuery

-- Hits as the engine reports them, best first, and the size of the whole matching set.
structure Hit where
  id : String
  score : Option (Binary .single)
  source : Option Json

structure ResultPage where
  hits : List Hit
  total : Nat

namespace Hit

def ofId (id : String) : Hit := ⟨id, none, none⟩

def withSource (hit : Hit) (source : Json) : Hit := { hit with source := some source }

def toJson (hit : Hit) : Json :=
  .object (("_id", .string hit.id) ::
    (hit.score.toList.map fun score => ("_score", .number (.single score))) ++
    hit.source.toList.map (("_source", ·)))

def ofJson? (value : Json) : Option Hit := do
  match ← value.slots ["_id", "_score", "_source"] with
  | [id, score, source] =>
    return {
      id := ← id.required Json.string?
      score := ← score.withDefault none (Json.nullable Json.single?)
      source := ← source.withDefault none (Json.nullable Json.anyValue) }
  | _ => none

def idAfter (start : String) (hit : Hit) : String :=
  if start.toList.isPrefixOf hit.id.toList then
    String.ofList (hit.id.toList.drop start.toList.length)
  else hit.id

end Hit

namespace ResultPage

def empty : ResultPage := ⟨[], 0⟩

def ids (page : ResultPage) : List String := page.hits.map Hit.id

def toJson (page : ResultPage) : Json :=
  .object [("hits", .array (page.hits.map Hit.toJson)), ("total_hits", .nat page.total)]

def ofJson? (value : Json) : Option ResultPage := do
  match ← value.slots ["hits", "total_hits"] with
  | [hits, total] =>
    return ⟨← hits.required (Json.items? Hit.ofJson?), ← total.required Json.word?⟩
  | _ => none

-- The total is a bare number or an object that holds it; any other form counts as zero.
def totalOf (found : Json) : Nat :=
  match found.get? "total" with
  | some (.number n) => n.word?.getD 0
  | some (.object fields) => ((fields.lookup "value").bind Json.word?).getD 0
  | _ => 0

def ofResponse (body : Json) : Except Error ResultPage :=
  match body.get? "hits" with
  | none => .error (.transport "response has no 'hits' section")
  | some found =>
    match found.get? "hits" with
    | none => .ok ⟨[], totalOf found⟩
    | some list =>
      match Json.items? Hit.ofJson? list with
      | some hits => .ok ⟨hits, totalOf found⟩
      | none => .error (.undecodable .mismatched)

end ResultPage

end SearchQuery
