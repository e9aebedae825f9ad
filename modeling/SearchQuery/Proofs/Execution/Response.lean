import SearchQuery.Proofs.Json.Records
import SearchQuery.ResultPage

namespace SearchQuery

namespace Hit

inductive Scored : Option Json → Option (Binary .single) → Prop where
  | absent : Scored none none
  | null : Scored (some .null) none
  | number (score : Number) : Scored (some (.number score)) (some score.toSingle)

-- The values that stand for a hit: an object of its fields, or an array of them in order, of which
-- all but the id may be left out.
inductive Denotes : Json → Hit → Prop where
  | object {fields : List (String × Json)} {hit : Hit}
      (id : fields.lookup "_id" = some (.string hit.id))
      (score : Scored (fields.lookup "_score") hit.score)
      (source : Json.unlessNull (fields.lookup "_source") = hit.source) :
      Denotes (.object fields) hit
  | array {items : List Json} {hit : Hit} (short : items.length ≤ 3)
      (id : items[0]? = some (.string hit.id)) (score : Scored items[1]? hit.score)
      (source : Json.unlessNull items[2]? = hit.source) : Denotes (.array items) hit

theorem withDefault_single_iff {slot : Slot} {score : Option (Binary .single)} :
    slot.withDefault none (Json.nullable Json.single?) = some score ↔
      Scored slot.value? score := by
  constructor
  · intro read
    cases slot with
    | missing | cut =>
      cases read
      exact .absent
    | given value =>
      cases value with
      | null =>
        cases read
        exact .null
      | number number =>
        cases read
        exact .number number
      | bool | string | array | object => cases read
  · intro scored
    cases slot with
    | missing | cut =>
      cases scored
      rfl
    | given value =>
      cases scored with
      | null => rfl
      | number => rfl

theorem ofJson?_slots_iff {value : Json} {id score source : Slot} {hit : Hit}
    (slots : value.slots ["_id", "_score", "_source"] = some [id, score, source]) :
    ofJson? value = some hit ↔ id.value? = some (.string hit.id) ∧
      Scored score.value? hit.score ∧ Json.unlessNull source.value? = hit.source := by
  simp only [ofJson?, slots, Option.bind_eq_bind, Option.bind_some, Option.bind_eq_some_iff,
    Option.pure_def, Option.some.injEq, Slot.required_string_iff, withDefault_single_iff,
    Slot.withDefault_anyValue]
  constructor
  · rintro ⟨id, read, score, scored, rfl⟩
    exact ⟨read, scored, rfl⟩
  · rintro ⟨read, scored, sourced⟩
    exact ⟨hit.id, read, hit.score, scored, by rw [sourced]⟩

theorem ofJson?_eq_some_iff {value : Json} {hit : Hit} :
    ofJson? value = some hit ↔ Denotes value hit := by
  cases value with
  | null | bool | number | string => exact iff_of_false nofun nofun
  | object fields =>
    rw [ofJson?_slots_iff rfl]
    simp only [Slot.slotOfField_eq, Slot.value?_ofMember]
    constructor
    · rintro ⟨id, score, source⟩
      exact .object id score source
    · intro denotes
      cases denotes with
      | object id score source => exact ⟨id, score, source⟩
  | array items =>
    by_cases short : items.length ≤ 3
    · have slots : (Json.array items).slots ["_id", "_score", "_source"] =
          some ([items[0]?, items[1]?, items[2]?].map Slot.ofItem) := by
        refine (if_pos short).trans ?_
        rcases items with _ | ⟨_, _ | ⟨_, _ | ⟨_, _⟩⟩⟩ <;> rfl
      rw [ofJson?_slots_iff slots]
      simp only [Slot.value?_ofItem]
      constructor
      · rintro ⟨id, score, source⟩
        exact .array short id score source
      · intro denotes
        cases denotes with
        | array _ id score source => exact ⟨id, score, source⟩
    · have refused : ofJson? (.array items) = none := by
        have slots : (Json.array items).slots ["_id", "_score", "_source"] = none := if_neg short
        rw [ofJson?, slots]
        rfl
      rw [refused]
      refine iff_of_false nofun fun denotes => ?_
      cases denotes with
      | array within => exact short within

def layout (id : String) (score source : Option Json) : List (String × Option Json) :=
  [("_id", some (.string id)), ("_score", score), ("_source", source)]

theorem denotes_of_carries {value : Json} {id : String} {score source : Option Json}
    (carried : value.Carries (layout id score source)) (unscored : Json.unlessNull score = none) :
    Denotes value ⟨id, none, Json.unlessNull source⟩ := by
  have distinct : ((layout id score source).map (·.1)).Nodup :=
    (by decide : ["_id", "_score", "_source"].Nodup)
  have scored : Scored score none := by
    rcases Json.unlessNull_eq_none_iff.mp unscored with rfl | rfl
    · exact .absent
    · exact .null
  have slots := Json.slots_of_carries carried distinct
  refine ofJson?_eq_some_iff.mp ((ofJson?_slots_iff slots).mpr ?_)
  simp only [Slot.value?_ofMember, scored, true_and]

-- A hit without a score as an engine reports it: the score is absent or null, the members stand in
-- any order and others beside them.
def Reported (hit : Hit) (value : Json) : Prop :=
  ∃ score, Json.unlessNull score = none ∧ value.Carries (layout hit.id score hit.source)

theorem denotes_of_reported {hit : Hit} {value : Json} (unscored : hit.score = none)
    (sourced : hit.source ≠ some .null) (reported : hit.Reported value) : Denotes value hit := by
  obtain ⟨score, absent, carried⟩ := reported
  have denotes := denotes_of_carries carried absent
  rwa [Json.unlessNull_eq_self_iff.mpr sourced, ← unscored] at denotes

end Hit

namespace ResultPage

def DenotesHits (list : Json) (hits : List Hit) : Prop :=
  ∃ items, list = .array items ∧ List.Forall₂ Hit.Denotes items hits

theorem items?_hits_iff {list : Json} {hits : List Hit} :
    Json.items? Hit.ofJson? list = some hits ↔ DenotesHits list hits := by
  simp only [Json.items?_eq_some_iff, Hit.ofJson?_eq_some_iff]
  rfl

inductive Counted (total : Nat) : Json → Prop where
  | bare : Counted total (.nat total)
  | within {value : Json} (carried : value.Carries [("value", some (.nat total))]) :
      Counted total value

theorem totalOf_counted {found held : Json} {total : Nat} (word : total ≤ Number.greatestWord)
    (named : found.get? "total" = some held) (counted : Counted total held) :
    totalOf found = total := by
  have read := Json.word?_nat word
  unfold totalOf
  cases counted with
  | bare =>
    rw [named]
    exact congrArg (·.getD 0) read
  | within carried =>
    have value := Json.get?_of_carries carried (List.nodup_singleton _) List.mem_cons_self
    obtain ⟨fields, _, rfl, _⟩ := carried
    have within : fields.lookup "value" = some (.nat total) := value
    simp only [named, within, Option.bind_some, read, Option.getD_some]

structure Reported (hits : List Hit) (total : Nat) (items : List Json) (held found body : Json) :
    Prop where
  hits : List.Forall₂ Hit.Reported hits items
  counted : Counted total held
  inner : found.Carries [("total", some held), ("hits", some (.array items))]
  outer : body.Carries [("hits", some found)]

inductive Lacking : Json → Error → Prop where
  | noHits {body : Json} (missing : body.get? "hits" = none) :
      Lacking body (.transport "response has no 'hits' section")
  | notHits {body found list : Json} (outer : body.get? "hits" = some found)
      (inner : found.get? "hits" = some list) (undecodable : ¬∃ hits, DenotesHits list hits) :
      Lacking body (.undecodable .mismatched)

theorem isCaller_of_lacking {body : Json} {error : Error} (lacking : Lacking body error) :
    error.isCaller = false := by
  cases lacking <;> rfl

theorem ofResponse_eq_error_iff {body : Json} {error : Error} :
    ofResponse body = .error error ↔ Lacking body error := by
  constructor
  · intro failed
    unfold ofResponse at failed
    split at failed
    · next missing =>
      cases failed
      exact .noHits missing
    · next found outer =>
      split at failed
      · cases failed
      · next list inner =>
        split at failed
        · cases failed
        · next unread =>
          cases failed
          refine .notHits outer inner fun ⟨hits, denotes⟩ => ?_
          rw [items?_hits_iff.mpr denotes] at unread
          cases unread
  · intro lacking
    cases lacking with
    | noHits missing => rw [ofResponse, missing]
    | @notHits _ list outer inner undecodable =>
      have unread : Json.items? Hit.ofJson? list = none := by
        cases read : Json.items? Hit.ofJson? list with
        | none => rfl
        | some hits => exact absurd ⟨hits, items?_hits_iff.mp read⟩ undecodable
      simp only [ofResponse, outer, inner, unread]

theorem ofResponse_reported {hits : List Hit} {total : Nat} {items : List Json}
    {held found body : Json}
    (plain : ∀ hit ∈ hits, hit.score = none ∧ hit.source ≠ some .null)
    (word : total ≤ Number.greatestWord) (reported : Reported hits total items held found body) :
    ofResponse body = .ok ⟨hits, total⟩ := by
  have distinct : ["total", "hits"].Nodup := by decide
  have outer := Json.get?_of_carries reported.outer (List.nodup_singleton _) List.mem_cons_self
  have named := Json.get?_of_carries reported.inner distinct List.mem_cons_self
  have listed := Json.get?_of_carries reported.inner distinct
    (List.mem_cons_of_mem _ List.mem_cons_self)
  have denotes : List.Forall₂ Hit.Denotes items hits := by
    refine ((List.forall₂_and_left _ _).mpr ⟨plain, reported.hits⟩).imp ?_ |>.flip
    rintro hit item ⟨⟨unscored, sourced⟩, found⟩
    exact Hit.denotes_of_reported unscored sourced found
  have read := items?_hits_iff.mpr ⟨items, rfl, denotes⟩
  simp only [ofResponse, outer, listed, read, totalOf_counted word named reported.counted]

end ResultPage

-- A response is read as the page of exactly the hits that it reports, and it has no page only for
-- want of hits that can be read.
theorem engine_response_read (hits : List Hit) (total : Nat)
    (plain : ∀ hit ∈ hits, hit.score = none ∧ hit.source ≠ some .null)
    (word : total ≤ Number.greatestWord) (items : List Json) (held found body : Json)
    (reported : ResultPage.Reported hits total items held found body) :
    (∃ page, ResultPage.ofResponse body = .ok page ∧ page.hits = hits ∧ page.total = total ∧
      page.ids = hits.map Hit.id) ∧
    ∀ other error,
      (ResultPage.ofResponse other = .error error ↔ ResultPage.Lacking other error) ∧
      (ResultPage.ofResponse other = .error error → error.isCaller = false) := by
  refine ⟨?_, fun other error => ?_⟩
  · exact ⟨_, ResultPage.ofResponse_reported plain word reported, rfl, rfl, rfl⟩
  · rw [ResultPage.ofResponse_eq_error_iff]
    exact ⟨Iff.rfl, ResultPage.isCaller_of_lacking⟩

theorem engine_response_of_two_hits :
    let source := Json.object [("title", .string "b"), ("tags", .null)]
    let hits := [Hit.ofId "5", (Hit.ofId "2").withSource source]
    let items := [
      Json.object [("_index", .string "posts"), ("_score", .null), ("_id", .string "5")],
      .object [("_source", source), ("_id", .string "2")]]
    let held := Json.object [("relation", .string "eq"), ("value", .nat 120)]
    let found := Json.object [("max_score", .null), ("hits", .array items), ("total", held)]
    let body := Json.object [("took", .nat 3), ("hits", found)]
    (∀ hit ∈ hits, hit.score = none ∧ hit.source ≠ some .null) ∧ 120 ≤ Number.greatestWord ∧
    ResultPage.Reported hits 120 items held found body ∧
    ∃ page, ResultPage.ofResponse body = .ok page ∧ page.hits = hits ∧ page.total = 120 ∧
      page.ids = ["5", "2"] := by
  intro source hits items held found body
  have plain : ∀ hit ∈ hits, hit.score = none ∧ hit.source ≠ some .null := by
    simp [hits, source, Hit.ofId, Hit.withSource]
  have word : 120 ≤ Number.greatestWord := by decide
  have reversed (layout : List (String × Option Json)) (others : List (String × Json))
      (unknown : ∀ other ∈ others, other.1 ∉ layout.map (·.1)) :
      (Json.object (Json.present layout ++ others).reverse).Carries layout :=
    ⟨_, others, rfl, unknown, List.reverse_perm _⟩
  have first : Hit.Reported (Hit.ofId "5") items[0] := ⟨some .null, rfl,
    reversed (Hit.layout "5" (some .null) none) [("_index", .string "posts")] (by decide)⟩
  have second : ((Hit.ofId "2").withSource source).Reported items[1] :=
    ⟨none, rfl, reversed (Hit.layout "2" none (some source)) [] nofun⟩
  have reported : ResultPage.Reported hits 120 items held found body := by
    constructor
    case hits => exact .cons first (.cons second .nil)
    case counted =>
      exact .within (reversed [("value", some (.nat 120))] [("relation", .string "eq")] (by decide))
    case inner =>
      exact reversed [("total", some held), ("hits", some (.array items))] [("max_score", .null)]
        (by decide)
    case outer => exact reversed [("hits", some found)] [("took", .nat 3)] (by decide)
  exact ⟨plain, word, reported,
    (engine_response_read hits 120 plain word items held found body reported).1⟩

end SearchQuery
