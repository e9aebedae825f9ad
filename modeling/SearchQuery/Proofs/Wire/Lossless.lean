import Mathlib.Data.List.Basic
import SearchQuery.Proofs.Wire.Members

namespace SearchQuery

-- Nothing of a request gets lost on the wire: from the body one can tell the query, the order, the
-- window and the stored fields, although all but the last may be left out.

theorem Json.nat_inj {first second : Nat} (same : nat first = nat second) : first = second := by
  have integers : (first : Int) = second := Number.integer.inj (Json.number.inj same)
  omega

theorem RangeBounds.toJson_inj {first second : RangeBounds}
    (same : first.toJson = second.toJson) : first = second := by
  have members : Json.present first.layout = Json.present second.layout := by
    rw [← fields_eq_present, ← fields_eq_present]
    exact Json.object.inj same
  have distinct : ["gte", "gt", "lte", "lt"].Nodup := by decide
  have equal := Json.present_inj distinct rfl rfl members
  cases first
  cases second
  simpa [layout] using equal

theorem ScoreScript.toJson_inj {first second : ScoreScript}
    (same : first.toJson = second.toJson) : first = second := by
  rw [toJson_eq_present, toJson_eq_present] at same
  have distinct : ["source", "lang", "params"].Nodup := by decide
  have equal := Json.present_inj distinct rfl rfl (Json.object.inj same)
  obtain ⟨source, lang, params⟩ := first
  obtain ⟨other, otherLang, otherParams⟩ := second
  simp only [layout, List.cons.injEq, Prod.mk.injEq, Option.some.injEq, Json.string.injEq,
    true_and, and_true] at equal
  obtain ⟨rfl, langs, paramsSame⟩ := equal
  have sameLang : lang = otherLang :=
    Option.map_injective (fun _ _ equal => Json.string.inj equal) langs
  have sameParams : params = otherParams := by
    cases params <;> cases otherParams <;> simp_all
  rw [sameLang, sameParams]

theorem SortField.toJson_inj {first second : SortField} (same : first.toJson = second.toJson) :
    first = second := by
  obtain ⟨field, direction⟩ := first
  obtain ⟨other, otherDirection⟩ := second
  simp only [toJson, Json.object.injEq, List.cons.injEq, Prod.mk.injEq, Json.string.injEq,
    and_true] at same
  obtain ⟨rfl, named⟩ := same
  rw [← SortDirection.ofText_name direction, named, SortDirection.ofText_name]

theorem SourceFilter.toJson_inj {first second : SourceFilter}
    (same : first.toJson = second.toJson) : first = second := by
  have strings : Function.Injective (List.map Json.string) :=
    List.map_injective_iff.mpr fun _ _ equal => Json.string.inj equal
  cases first with
  | disabled =>
    cases second with
    | disabled => rfl
    | fields names => cases same
  | fields names =>
    cases second with
    | disabled => cases same
    | fields others => rw [strings (Json.array.inj same)]

namespace Node

inductive Modelled : Node → Prop where
  | term (field : String) (value : Json) : Modelled (.term field value)
  | range (field : String) (bounds : RangeBounds) : Modelled (.range field bounds)
  | matchPhrase (field : String) (phrase : Json) : Modelled (.matchPhrase field phrase)
  | present (field : String) : Modelled (.present field)
  | bool {must should mustNot : List Node} (musts : ∀ node ∈ must, Modelled node)
      (shoulds : ∀ node ∈ should, Modelled node) (mustNots : ∀ node ∈ mustNot, Modelled node) :
      Modelled (.bool must should mustNot)
  | functionScore {query : Option Node} (script : ScoreScript)
      (inner : ∀ node ∈ query, Modelled node) : Modelled (.functionScore query script)

def WrittenAlone (node : Node) : Prop :=
  ∀ other : Node, other.Modelled → node.toJson = other.toJson → node = other

theorem eq_of_map_toJson {nodes others : List Node} (alone : ∀ node ∈ nodes, node.WrittenAlone)
    (modelled : ∀ other ∈ others, other.Modelled) (same : nodes.map toJson = others.map toJson) :
    nodes = others := by
  induction nodes generalizing others with
  | nil => exact (List.map_eq_nil_iff.mp same.symm).symm
  | cons node rest ih =>
    obtain ⟨other, more, rfl, here, later⟩ := List.map_eq_cons_iff.mp same.symm
    have first := alone node List.mem_cons_self other (modelled other List.mem_cons_self) here.symm
    have following : rest = more := by
      apply ih
      · intro inner member
        exact alone inner (List.mem_cons_of_mem node member)
      · intro inner member
        exact modelled inner (List.mem_cons_of_mem other member)
      · exact later.symm
    rw [first, following]

theorem eq_of_map_toJson_option {query other : Option Node}
    (alone : ∀ node ∈ query, node.WrittenAlone) (modelled : ∀ node ∈ other, node.Modelled)
    (same : query.map toJson = other.map toJson) : query = other := by
  cases query with
  | none => exact (Option.map_eq_none_iff.mp same.symm).symm
  | some node =>
    obtain ⟨inner, rfl, here⟩ := Option.map_eq_some_iff.mp same.symm
    rw [alone node rfl inner (modelled inner rfl) here.symm]

theorem entries_of_toJson {must should mustNot otherMust otherShould otherMustNot : List Node}
    (same : (Node.bool must should mustNot).toJson =
      (Node.bool otherMust otherShould otherMustNot).toJson) :
    must.map toJson = otherMust.map toJson ∧ should.map toJson = otherShould.map toJson ∧
      mustNot.map toJson = otherMustNot.map toJson := by
  simp only [toJson_bool, Json.object.injEq, List.cons.injEq, Prod.mk.injEq, true_and,
    and_true] at same
  have distinct : ["must", "should", "must_not"].Nodup := by decide
  have equal := Json.present_inj distinct rfl rfl same
  simp only [layout, List.map_cons, List.map_nil, entries, List.cons.injEq, Prod.mk.injEq,
    true_and, and_true] at equal
  obtain ⟨one, two, three⟩ := equal
  exact ⟨Json.filled_inj one, Json.filled_inj two, Json.filled_inj three⟩

theorem scored_of_toJson {query other : Option Node} {script otherScript : ScoreScript}
    (same : (functionScore query script).toJson = (functionScore other otherScript).toJson) :
    query.map toJson = other.map toJson ∧ script = otherScript := by
  simp only [toJson_functionScore, Json.object.injEq, List.cons.injEq, Prod.mk.injEq, true_and,
    and_true] at same
  have distinct : ["query", "functions", "boost_mode"].Nodup := by decide
  have equal := Json.present_inj distinct rfl rfl same
  simp only [scoredLayout, List.cons.injEq, Prod.mk.injEq, Option.some.injEq, Json.array.injEq,
    Json.object.injEq, true_and, and_true] at equal
  exact ⟨equal.1, ScoreScript.toJson_inj equal.2⟩

-- By the kind of the query: the name of the only member tells the kinds apart.
theorem Modelled.writtenAlone {node : Node} (modelled : node.Modelled) : node.WrittenAlone := by
  induction modelled with
  | term field value =>
    intro other kind same
    cases kind with
    | term => simpa [toJson] using same
    | _ => simp [toJson, toJson_functionScore] at same
  | range field bounds =>
    intro other kind same
    cases kind with
    | range otherField otherBounds =>
      simp only [toJson, Json.object.injEq, List.cons.injEq, Prod.mk.injEq, true_and,
        and_true] at same
      rw [same.1, RangeBounds.toJson_inj same.2]
    | _ => simp [toJson, toJson_functionScore] at same
  | matchPhrase field phrase =>
    intro other kind same
    cases kind with
    | matchPhrase => simpa [toJson] using same
    | _ => simp [toJson, toJson_functionScore] at same
  | present field =>
    intro other kind same
    cases kind with
    | present => simpa [toJson] using same
    | _ => simp [toJson, toJson_functionScore] at same
  | bool _ _ _ mustAlone shouldAlone mustNotAlone =>
    intro other kind same
    cases kind with
    | bool musts shoulds mustNots =>
      obtain ⟨one, two, three⟩ := entries_of_toJson same
      rw [eq_of_map_toJson mustAlone musts one, eq_of_map_toJson shouldAlone shoulds two,
        eq_of_map_toJson mustNotAlone mustNots three]
    | _ => simp [toJson, toJson_functionScore] at same
  | functionScore script _ innerAlone =>
    intro other kind same
    cases kind with
    | functionScore otherScript inner =>
      obtain ⟨queries, scripts⟩ := scored_of_toJson same
      rw [eq_of_map_toJson_option innerAlone inner queries, scripts]
    | _ => simp [toJson, toJson_functionScore] at same

end Node

namespace Request

def Modelled (request : Request) : Prop := ∀ node ∈ request.query, node.Modelled

theorem filter_pos_eq_iff {first second : Option Nat} :
    first.filter (0 < ·) = second.filter (0 < ·) ↔ first.getD 0 = second.getD 0 := by
  have kept : ∀ offset : Option Nat, (offset.filter (0 < ·)).getD 0 = offset.getD 0 := by
    intro offset
    cases offset with
    | none => rfl
    | some offset => cases offset <;> rfl
  constructor
  · intro same
    rw [← kept first, ← kept second, same]
  · intro same
    cases first <;> cases second <;> simp_all [Option.filter]

theorem layout_eq_iff {first second : Request} (modelled : first.Modelled)
    (modelledToo : second.Modelled) :
    first.layout = second.layout ↔
      first.query = second.query ∧ first.sort = second.sort ∧
        first.offset.getD 0 = second.offset.getD 0 ∧ first.limit = second.limit ∧
        first.source = second.source := by
  have sorts : Function.Injective (List.map SortField.toJson) :=
    List.map_injective_iff.mpr fun _ _ => SortField.toJson_inj
  have numbers : Function.Injective (Option.map Json.nat) :=
    Option.map_injective fun _ _ => Json.nat_inj
  rw [← filter_pos_eq_iff]
  constructor
  · intro equal
    simp only [layout, List.cons.injEq, Prod.mk.injEq, Option.some.injEq, true_and,
      and_true] at equal
    obtain ⟨query, sort, offset, limit, source⟩ := equal
    have alone : ∀ node ∈ first.query, node.WrittenAlone := by
      intro node member
      exact (modelled node member).writtenAlone
    refine ⟨Node.eq_of_map_toJson_option alone modelledToo query, ?_, ?_, ?_, ?_⟩
    · exact sorts (Json.filled_inj sort)
    · exact numbers offset
    · exact numbers limit
    · exact SourceFilter.toJson_inj source
  · rintro ⟨query, sort, offset, limit, source⟩
    rw [layout, layout, query, sort, offset, limit, source]

end Request

theorem request_body_lossless {first second : Request} (modelled : first.Modelled)
    (modelledToo : second.Modelled) :
    first.toJson = second.toJson ↔
      first.query = second.query ∧ first.sort = second.sort ∧
        first.offset.getD 0 = second.offset.getD 0 ∧ first.limit = second.limit ∧
        first.source = second.source := by
  rw [← Request.layout_eq_iff modelled modelledToo, Request.toJson_eq_present,
    Request.toJson_eq_present]
  constructor
  · intro same
    have distinct : ["query", "sort", "from", "size", "_source"].Nodup := by decide
    exact Json.present_inj distinct rfl rfl (Json.object.inj same)
  · intro same
    rw [same]

theorem scored_empty_group_written_apart :
    let script : ScoreScript := .ofSource "_score"
    let missing : Request := ⟨some (.functionScore none script), [], none, some 5, .all⟩
    let started : Request := { missing with offset := some 0 }
    let empty : Request := ⟨some (.functionScore (some .emptyBool) script), [], none, some 5, .all⟩
    missing.Modelled ∧ started.Modelled ∧ empty.Modelled ∧
      missing.toJson = started.toJson ∧ missing.toJson ≠ empty.toJson := by
  intro script missing started empty
  have modelled : missing.Modelled := by
    intro node member
    cases member
    exact .functionScore script nofun
  have modelledToo : empty.Modelled := by
    intro node member
    cases member
    apply Node.Modelled.functionScore
    intro inner group
    cases group
    exact .bool nofun nofun nofun
  refine ⟨modelled, modelled, modelledToo, ?_, ?_⟩
  · exact (request_body_lossless modelled modelled).mpr ⟨rfl, rfl, rfl, rfl, rfl⟩
  · intro same
    have query := ((request_body_lossless modelled modelledToo).mp same).1
    cases query

end SearchQuery
