import Mathlib.Data.List.Nodup
import SearchQuery.Json.Shape
import SearchQuery.Node.Place
import SearchQuery.Request

namespace SearchQuery

-- What goes on the wire as objects whose members have a place each, in which a member may be left
-- out. Such an object says, for every name, the value or that there is none.

namespace Json

def filled (items : List Json) : Option Json := if items.isEmpty then none else some (.array items)

theorem present_nil : present [] = [] := rfl

theorem present_cons_none (name : String) (rest : List (String × Option Json)) :
    present ((name, none) :: rest) = present rest := rfl

theorem present_cons_some (name : String) (value : Json) (rest : List (String × Option Json)) :
    present ((name, some value) :: rest) = (name, value) :: present rest := rfl

theorem present_cons (name : String) (value : Option Json) (rest : List (String × Option Json)) :
    present ((name, value) :: rest) = value.toList.map ((name, ·)) ++ present rest := by
  cases value with
  | none => exact present_cons_none name rest
  | some value => exact present_cons_some name value rest

theorem mem_present {layout : List (String × Option Json)} {field : String × Json} :
    field ∈ present layout ↔ (field.1, some field.2) ∈ layout := by
  constructor
  · intro member
    obtain ⟨⟨name, value⟩, listed, given⟩ := List.mem_filterMap.mp member
    obtain ⟨inner, rfl, rfl⟩ := Option.map_eq_some_iff.mp given
    exact listed
  · intro listed
    exact List.mem_filterMap.mpr ⟨_, listed, rfl⟩

theorem names_present (layout : List (String × Option Json)) :
    ((present layout).map (·.1)).Sublist (layout.map (·.1)) := by
  induction layout with
  | nil => exact .slnil
  | cons member rest ih =>
    obtain ⟨name, value⟩ := member
    cases value with
    | none => exact ih.cons name
    | some value => exact ih.cons_cons name

theorem lookup_eq_of_mem_iff {fields : List (String × Json)} {name : String}
    {held : Option Json} (holds : ∀ value, (name, value) ∈ fields ↔ held = some value) :
    fields.lookup name = held := by
  cases found : fields.lookup name with
  | some value => exact ((holds value).mp (mem_of_lookup found)).symm
  | none =>
    cases held with
    | none => rfl
    | some value =>
      have absent := List.lookup_eq_none_iff.mp found _ ((holds value).mpr rfl)
      simp at absent

theorem mem_present_iff_of_listed {layout : List (String × Option Json)}
    (distinct : (layout.map (·.1)).Nodup) {name : String} {held : Option Json}
    (listed : (name, held) ∈ layout) {value : Json} :
    (name, value) ∈ present layout ↔ held = some value := by
  rw [mem_present]
  constructor
  · intro here
    exact congrArg Prod.snd (List.inj_on_of_nodup_map distinct listed here rfl)
  · rintro rfl
    exact listed

theorem lookup_present {layout : List (String × Option Json)}
    (distinct : (layout.map (·.1)).Nodup) {name : String} {value : Option Json}
    (listed : (name, value) ∈ layout) : (present layout).lookup name = value :=
  lookup_eq_of_mem_iff fun _ => mem_present_iff_of_listed distinct listed

theorem present_inj {names : List String} (distinct : names.Nodup)
    {first second : List (String × Option Json)} (one : first.map (·.1) = names)
    (two : second.map (·.1) = names) (same : present first = present second) :
    first = second := by
  induction names generalizing first second with
  | nil => rw [List.map_eq_nil_iff.mp one, List.map_eq_nil_iff.mp two]
  | cons name names ih =>
    have distinctFirst : (first.map (·.1)).Nodup := one ▸ distinct
    have distinctSecond : (second.map (·.1)).Nodup := two ▸ distinct
    obtain ⟨⟨_, value⟩, rest, rfl, rfl, named⟩ := List.map_eq_cons_iff.mp one
    obtain ⟨⟨name, other⟩, others, rfl, rfl, namedToo⟩ := List.map_eq_cons_iff.mp two
    have equal : value = other := by
      rw [← lookup_present distinctFirst List.mem_cons_self, same,
        lookup_present distinctSecond List.mem_cons_self]
    have following : present rest = present others := by
      cases equal
      cases value with
      | none => exact same
      | some value => exact (List.cons.inj same).2
    rw [equal, ih (List.nodup_cons.mp distinct).2 named namedToo following]

theorem filled_eq_some_iff {items : List Json} {value : Json} :
    filled items = some value ↔ items ≠ [] ∧ .array items = value := by
  cases items <;> simp [filled]

theorem filled_inj {first second : List Json} (same : filled first = filled second) :
    first = second := by
  cases first <;> cases second <;> simp_all [filled]

end Json

namespace RangeBounds

theorem fields_eq_present (bounds : RangeBounds) : bounds.fields = Json.present bounds.layout := by
  simp [fields, layout, Json.present_cons, Json.present_nil]

end RangeBounds

namespace ScoreScript

def layout (script : ScoreScript) : List (String × Option Json) :=
  [("source", some (.string script.source)), ("lang", script.lang.map .string),
    ("params", if script.params.isEmpty then none else some (.object script.params))]

theorem toJson_eq_present (script : ScoreScript) :
    script.toJson = .object (Json.present script.layout) := by
  simp only [toJson, layout, Json.present_cons]
  cases script.lang <;> cases script.params <;> rfl

end ScoreScript

namespace Node

def layout (node : Node) : List (String × Option Json) :=
  [.must, .should, .mustNot].map fun bucket =>
    (bucket.name, Json.filled ((node.entries bucket).map toJson))

def scoredLayout (query : Option Json) (script : Json) : List (String × Option Json) :=
  [("query", query),
    ("functions", some (.array [.object [("script_score", .object [("script", script)])]])),
    ("boost_mode", some (.string "replace"))]

theorem bucket_eq (connector : Connector) (nodes : List Node) :
    bucket connector (listToJson nodes) =
      (Json.filled (nodes.map toJson)).toList.map ((connector.name, ·)) := by
  rw [listToJson_eq_map]
  cases nodes with
  | nil => rfl
  | cons node rest => rfl

theorem toJson_bool (must should mustNot : List Node) :
    (Node.bool must should mustNot).toJson =
      .object [("bool", .object (Json.present (Node.bool must should mustNot).layout))] := by
  simp [toJson, bucket_eq, layout, entries, Json.present_cons, Json.present_nil]

theorem toJson_functionScore (query : Option Node) (script : ScoreScript) :
    (functionScore query script).toJson = .object [("function_score",
      .object (Json.present (scoredLayout (query.map toJson) script.toJson)))] := by
  cases query with
  | none => rfl
  | some query => rfl

end Node

namespace Request

def layout (request : Request) : List (String × Option Json) :=
  [("query", request.query.map Node.toJson),
    ("sort", Json.filled (request.sort.map SortField.toJson)),
    ("from", (request.offset.filter (0 < ·)).map .nat), ("size", request.limit.map .nat),
    ("_source", some request.source.toJson)]

theorem toJson_eq_present (request : Request) :
    request.toJson = .object (Json.present request.layout) := by
  have sorted : request.sortFields =
      (Json.filled (request.sort.map SortField.toJson)).toList.map (("sort", ·)) := by
    unfold sortFields
    cases request.sort with
    | nil => rfl
    | cons sort rest => rfl
  have skipped : request.offsetFields =
      ((request.offset.filter (0 < ·)).map Json.nat).toList.map (("from", ·)) := by
    unfold offsetFields
    cases request.offset with
    | none => rfl
    | some offset => by_cases skips : 0 < offset <;> simp [skips, Option.filter]
  simp [toJson, layout, queryFields, limitFields, sorted, skipped, Json.present_cons,
    Json.present_nil, Option.toList_map, Function.comp_def]

end Request

end SearchQuery
