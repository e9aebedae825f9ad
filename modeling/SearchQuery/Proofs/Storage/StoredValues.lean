import SearchQuery.Collection
import SearchQuery.Proofs.Execution.Requests
import SearchQuery.Proofs.Execution.Response
import SearchQuery.Proofs.Storage.RoundTrip
import SearchQuery.Settings.Basic
import SearchQuery.Stored

namespace SearchQuery

-- What comes back of the records that are kept on their own. Only a member that may be left out can
-- change: an explicit null comes back as not set, except in the bounds of a stored clause.

theorem SortField.ofStored?_toStored (sort : SortField) :
    ofStored? sort.toStored = some sort := by
  obtain ⟨field, direction⟩ := sort
  cases direction <;> rfl

theorem ScoreScript.ofStored?_toJson (script : ScoreScript) :
    ofStored? script.toJson = some script := by
  obtain ⟨source, lang, params⟩ := script
  cases lang <;> cases params <;> rfl

theorem Target.ofStored?_toStored (target : Target) : ofStored? target.toStored = some target := by
  obtain ⟨index, docType⟩ := target
  cases docType <;> rfl

theorem TermQuery.ofStored?_toStored (query : TermQuery) :
    ofStored? query.toStored = some query := rfl

theorem PhraseQuery.ofStored?_toStored (query : PhraseQuery) :
    ofStored? query.toStored = some query := rfl

theorem ExistsQuery.ofStored?_toStored (query : ExistsQuery) :
    ofStored? query.toStored = some query := rfl

theorem Json.strings?_strings (values : List String) : (strings values).strings? = some values := by
  have read : items? string? (.array (values.map .string)) = some (values.map id) :=
    items?_map fun _ _ => rfl
  rwa [List.map_id] at read

theorem Settings.nullable_optionalText (text : Option String) :
    Json.nullable Json.string? (optionalText text) = some text := by
  cases text <;> rfl

theorem Settings.ofJson?_toJson {settings : Settings} (signed : Signed settings.perPage) :
    ofJson? settings.toJson = some settings := by
  have slots : settings.toJson.slots keys = some [.given (.string settings.index),
      .given (optionalText settings.docType), .given (.int settings.perPage),
      .given (.string settings.pageName), .given (.strings settings.columns)] := rfl
  have size : (Json.int settings.perPage).signed? = some settings.perPage :=
    Json.signed?_int signed
  simp [ofJson?, slots, Slot.withDefault, nullable_optionalText, size, Json.strings?_strings,
    Json.string?]

theorem Collection.ofJson?_toJson {α : Type} {encode : α → Json} {decode : Json → Option α}
    {collection : Collection α}
    (reads : ∀ item ∈ collection.items, decode (encode item) = some item)
    (word : collection.total ≤ Number.greatestWord) :
    ofJson? decode (collection.toJson encode) = some collection := by
  have slots : (collection.toJson encode).slots ["items", "total"] =
      some [.given (.array (collection.items.map encode)), .given (.nat collection.total)] := rfl
  have items : Json.items? decode (.array (collection.items.map encode)) =
      some (collection.items.map id) := Json.items?_map reads
  simp [ofJson?, slots, Slot.required, items, Json.word?_nat word]

namespace RangeBounds

def withoutNulls (bounds : RangeBounds) : RangeBounds where
  gte := Json.unlessNull bounds.gte
  gt := Json.unlessNull bounds.gt
  lte := Json.unlessNull bounds.lte
  lt := Json.unlessNull bounds.lt

def NullFree (bounds : RangeBounds) : Prop := ∀ member ∈ bounds.layout, member.2 ≠ some .null

theorem withoutNulls_eq_self_iff {bounds : RangeBounds} :
    bounds.withoutNulls = bounds ↔ bounds.NullFree := by
  obtain ⟨gte, gt, lte, lt⟩ := bounds
  simp [withoutNulls, NullFree, layout, Json.unlessNull_eq_self_iff]

theorem names_layout (bounds : RangeBounds) :
    bounds.layout.map (·.1) = ["gte", "gt", "lte", "lt"] := rfl

theorem ofSlots?_layout (bounds : RangeBounds) :
    ofSlots? (bounds.layout.map fun member => .ofMember member.2) = some bounds.withoutNulls := by
  simp [ofSlots?, layout, Slot.optional_anyValue, withoutNulls]

theorem ofStored?_toStored (bounds : RangeBounds) :
    ofStored? bounds.toStored = some bounds.withoutNulls := by
  have distinct : (bounds.layout.map (·.1)).Nodup := (by decide : ["gte", "gt", "lte", "lt"].Nodup)
  have slots := Json.slots_of_carries (Json.carries_present bounds.layout) distinct
  rw [names_layout] at slots
  rw [ofStored?, toStored, slots]
  exact bounds.ofSlots?_layout

theorem toStored_eq_toJson (bounds : RangeBounds) : bounds.toStored = bounds.toJson := by
  rw [toStored, toJson, fields_eq_present]

end RangeBounds

namespace RangeQuery

def withoutNulls (query : RangeQuery) : RangeQuery :=
  { query with bounds := query.bounds.withoutNulls }

theorem withoutNulls_eq_self_iff {query : RangeQuery} :
    query.withoutNulls = query ↔ query.bounds.NullFree := by
  obtain ⟨field, bounds⟩ := query
  simp [withoutNulls, RangeBounds.withoutNulls_eq_self_iff]

theorem ofStored?_toStored (query : RangeQuery) :
    ofStored? query.toStored = some query.withoutNulls := by
  let layout := ("field", some (Json.string query.field)) :: query.bounds.layout
  have distinct : (layout.map (·.1)).Nodup :=
    (by decide : ["field", "gte", "gt", "lte", "lt"].Nodup)
  have slots := Option.some.inj (Json.slots_of_carries (Json.carries_present layout) distinct)
  obtain ⟨named, bounded⟩ := List.cons.inj slots
  have field : (Json.slotOfField (Json.present layout) "field").required Json.string? =
      some query.field := congrArg (Slot.required Json.string?) named
  have bounds : RangeBounds.ofSlots? (["gte", "gt", "lte", "lt"].map
      (Json.slotOfField (Json.present layout))) = some query.bounds.withoutNulls :=
    (congrArg RangeBounds.ofSlots? bounded).trans query.bounds.ofSlots?_layout
  have written : query.toStored = .object (Json.present layout) := rfl
  rw [written, ofStored?, field, bounds]
  rfl

end RangeQuery

namespace Hit

def withoutNull (hit : Hit) : Hit := { hit with source := Json.unlessNull hit.source }

theorem withoutNull_eq_self_iff {hit : Hit} :
    hit.withoutNull = hit ↔ hit.source ≠ some .null := by
  obtain ⟨id, score, source⟩ := hit
  simp [withoutNull, Json.unlessNull_eq_self_iff]

theorem toJson_unscored {hit : Hit} (unscored : hit.score = none) :
    hit.toJson = .object (Json.present (layout hit.id none hit.source)) := by
  simp [toJson, layout, unscored, Json.present_cons, Json.present_nil]

theorem ofJson?_toJson {hit : Hit} (unscored : hit.score = none) :
    ofJson? hit.toJson = some hit.withoutNull := by
  rw [toJson_unscored unscored, ofJson?_eq_some_iff, withoutNull, unscored]
  exact denotes_of_carries (Json.carries_present _) rfl

end Hit

namespace ResultPage

def withoutNulls (page : ResultPage) : ResultPage :=
  { page with hits := page.hits.map Hit.withoutNull }

theorem withoutNulls_eq_self_iff {page : ResultPage} :
    page.withoutNulls = page ↔ ∀ hit ∈ page.hits, hit.source ≠ some .null := by
  obtain ⟨hits, total⟩ := page
  have each : hits.map Hit.withoutNull = hits.map id ↔ ∀ hit ∈ hits, hit.withoutNull = hit :=
    List.map_inj_left
  rw [List.map_id] at each
  simpa [withoutNulls, Hit.withoutNull_eq_self_iff] using each

theorem ofJson?_toJson {page : ResultPage} (unscored : ∀ hit ∈ page.hits, hit.score = none)
    (word : page.total ≤ Number.greatestWord) :
    ofJson? page.toJson = some page.withoutNulls := by
  have slots : page.toJson.slots ["hits", "total_hits"] =
      some [.given (.array (page.hits.map Hit.toJson)), .given (.nat page.total)] := rfl
  have hits := Json.items?_map fun hit member => Hit.ofJson?_toJson (unscored hit member)
  simp [ofJson?, slots, Slot.required, hits, Json.word?_nat word, withoutNulls]

end ResultPage

namespace Clause

def rangeLayout (connector : Option Connector) (field : String) (bounds : RangeBounds) :
    List (String × Option Json) :=
  [("kind", some (.string "range")), ("connector", connector.map (.string ·.name)),
    ("field", some (.string field)), ("value", some bounds.toJson)]

theorem ofJson_of_range {value : Json} {connector : Option Connector} {field : String}
    {bounds : RangeBounds} (carried : value.Carries (rangeLayout connector field bounds))
    (bounded : ¬bounds.Unset) :
    ofJson value = .ok (.leaf (connector.getD .must) (.range field bounds)) := by
  have distinct : ((rangeLayout connector field bounds).map (·.1)).Nodup :=
    (by decide : ["kind", "connector", "field", "value"].Nodup)
  have holds {name : String} {held : Option Json}
      (listed : (name, held) ∈ rangeLayout connector field bounds) :=
    Json.get?_of_carries carried distinct listed
  obtain ⟨fields, _, rfl, _⟩ := carried
  have kind : fields.lookup "kind" = some (.string "range") := holds (by simp [rangeLayout])
  have connected : fields.lookup "connector" = connector.map (.string ·.name) :=
    holds (by simp [rangeLayout])
  have named : fields.lookup "field" = some (.string field) := holds (by simp [rangeLayout])
  have valued : fields.lookup "value" = some bounds.toJson := holds (by simp [rangeLayout])
  have connects : connectorOf fields = .ok (connector.getD .must) := by
    rw [connectorOf, connected]
    cases connector with
    | none => rfl
    | some connector => simp [Connector.ofName?_name]
  have read : leafOf "range" fields = .ok (.range field bounds) := by
    have chosen : leafOf "range" fields = (do
        let field ← fieldOf "range" fields
        return .range field (← boundsOf fields)) := rfl
    rw [chosen, fieldOf, named, boundsOf_written valued,
      RangeBounds.isEmpty_eq_false_iff.mpr bounded]
    rfl
  rw [ofJson, kindOf, kind, connects]
  simp only [bind, Except.bind, read]
  rfl

end Clause

theorem stored_values_restored :
    (∀ sort : SortField, SortField.ofStored? sort.toStored = some sort) ∧
    (∀ script : ScoreScript, ScoreScript.ofStored? script.toJson = some script) ∧
    (∀ target : Target, Target.ofStored? target.toStored = some target) ∧
    (∀ settings : Settings, Signed settings.perPage →
      Settings.ofJson? settings.toJson = some settings) ∧
    (∀ query : TermQuery, TermQuery.ofStored? query.toStored = some query) ∧
    (∀ query : PhraseQuery, PhraseQuery.ofStored? query.toStored = some query) ∧
    (∀ query : ExistsQuery, ExistsQuery.ofStored? query.toStored = some query) ∧
    (∀ collection : Collection Json, collection.total ≤ Number.greatestWord →
      Collection.ofJson? Json.anyValue (collection.toJson id) = some collection) ∧
    (∀ bounds : RangeBounds,
      RangeBounds.ofStored? bounds.toStored = some bounds.withoutNulls ∧
      (bounds.withoutNulls = bounds ↔ bounds.NullFree) ∧ bounds.toStored = bounds.toJson) ∧
    (∀ query : RangeQuery, RangeQuery.ofStored? query.toStored = some query.withoutNulls ∧
      (query.withoutNulls = query ↔ query.bounds.NullFree)) ∧
    (∀ hit : Hit, hit.score = none → Hit.ofJson? hit.toJson = some hit.withoutNull ∧
      (hit.withoutNull = hit ↔ hit.source ≠ some .null)) ∧
    (∀ page : ResultPage, (∀ hit ∈ page.hits, hit.score = none) →
      page.total ≤ Number.greatestWord →
      ResultPage.ofJson? page.toJson = some page.withoutNulls ∧
      (page.withoutNulls = page ↔ ∀ hit ∈ page.hits, hit.source ≠ some .null)) ∧
    ∀ (bounds : RangeBounds) (connector : Option Connector) (field : String) (value : Json),
      ¬bounds.Unset → value.Carries (Clause.rangeLayout connector field bounds) →
      Clause.ofJson value = .ok (.leaf (connector.getD .must) (.range field bounds)) := by
  refine ⟨SortField.ofStored?_toStored, ScoreScript.ofStored?_toJson, Target.ofStored?_toStored,
    fun _ => Settings.ofJson?_toJson, TermQuery.ofStored?_toStored,
    PhraseQuery.ofStored?_toStored, ExistsQuery.ofStored?_toStored, ?_, ?_, ?_, ?_, ?_, ?_⟩
  · intro collection word
    exact Collection.ofJson?_toJson (fun _ _ => rfl) word
  · intro bounds
    exact ⟨bounds.ofStored?_toStored, RangeBounds.withoutNulls_eq_self_iff,
      bounds.toStored_eq_toJson⟩
  · intro query
    exact ⟨query.ofStored?_toStored, RangeQuery.withoutNulls_eq_self_iff⟩
  · intro hit unscored
    exact ⟨Hit.ofJson?_toJson unscored, Hit.withoutNull_eq_self_iff⟩
  · intro page unscored word
    exact ⟨ResultPage.ofJson?_toJson unscored word, ResultPage.withoutNulls_eq_self_iff⟩
  · intro bounds connector field value bounded carried
    exact Clause.ofJson_of_range carried bounded

theorem stored_values_with_nulls :
    let script := ((ScoreScript.ofSource "a * b").withParam "a" (.nat 1)).withParam "a" .null
    let settings : Settings := ⟨"posts", none, 25, "p", ["id", "title"]⟩
    let collection : Collection Json := ⟨[.null, .nat 3], 40⟩
    let bounds : RangeBounds := ⟨some .null, none, none, some (.nat 65)⟩
    let hit := (Hit.ofId "5").withSource .null
    let page : ResultPage := ⟨[hit, Hit.ofId "2"], 120⟩
    let clause := Json.object [("value", .object [("gte", .null), ("lt", .nat 65)]),
      ("field", .string "age"), ("kind", .string "range")]
    ScoreScript.ofStored? script.toJson = some ⟨"a * b", none, [("a", .null)]⟩ ∧
    Settings.ofJson? settings.toJson = some settings ∧
    Collection.ofJson? Json.anyValue (collection.toJson id) = some collection ∧
    RangeBounds.ofStored? bounds.toStored = some ⟨none, none, none, some (.nat 65)⟩ ∧
    Hit.ofJson? hit.toJson = some (.ofId "5") ∧
    ResultPage.ofJson? page.toJson = some ⟨[.ofId "5", .ofId "2"], 120⟩ ∧
    Clause.ofJson clause = .ok (.leaf .must (.range "age" bounds)) := by
  intro script settings collection bounds hit page clause
  obtain ⟨_, scripted, _, kept, _, _, _, collected, restored, _, found, paged, decoded⟩ :=
    stored_values_restored
  have unscored : ∀ hit ∈ page.hits, hit.score = none := by
    simp [page, hit, Hit.ofId, Hit.withSource]
  have carried : clause.Carries (Clause.rangeLayout none "age" bounds) :=
    ⟨_, [], rfl, List.forall_mem_nil _,
      List.reverse_perm (Json.present (Clause.rangeLayout none "age" bounds))⟩
  have bounded : ¬bounds.Unset := by simp [RangeBounds.Unset, bounds]
  exact ⟨scripted script, kept settings (by decide), collected collection (by decide),
    (restored bounds).1, (found hit rfl).1, (paged page unscored (by decide)).1,
    decoded bounds none "age" clause bounded carried⟩

end SearchQuery
