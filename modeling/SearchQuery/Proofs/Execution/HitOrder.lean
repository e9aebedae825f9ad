import SearchQuery.Execution.Basic
import SearchQuery.Proofs.Execution.Rank

namespace SearchQuery

variable {ρ : Type}

namespace MemoryStore

variable (store : MemoryStore ρ) (ids : List String)

theorem matching_of_healthy (healthy : store.failure = none) :
    store.matching ids =
      .ok (store.records.filter fun record => ids.contains (store.key record)) := by
  unfold matching
  rw [healthy]

theorem matching_of_failure {reason : String} (fails : store.failure = some reason) :
    store.matching ids = .error (.recordStore reason) := by
  unfold matching
  rw [fails]

theorem hydrate_of_ids {ids : List String} (asked : ids ≠ []) (columns : List String) :
    (hydrate store ids columns).1 =
      (if store.hasCache then (store.matching ids).map List.reverse else store.matching ids).map
        (reorder store.key ids) := by
  have some : ids.isEmpty = false := by simpa using asked
  unfold hydrate
  rw [some]
  cases cached : store.hasCache <;>
    simp [RecordStore.findFromCache, RecordStore.findMany, RecordStore.recordId, cached]

theorem hydrate_eq_reorder (answers : store.failure = none ∨ ids = [])
    (distinct : (store.records.map store.key).Nodup) (columns : List String) :
    (hydrate store ids columns).1 = .ok (reorder store.key ids store.records) := by
  by_cases asked : ids = []
  · subst asked
    have empty : reorder store.key [] store.records = [] := by
      have kept : (reorder store.key [] store.records).Perm _ := reorder_perm store.records
      simpa using kept
    rw [empty]
    rfl
  · rw [store.hydrate_of_ids asked, store.matching_of_healthy ids (answers.resolve_right asked)]
    cases store.hasCache with
    | false =>
      simp only [if_false, Bool.false_eq_true, Except.map]
      rw [reorder_filter]
    | true =>
      simp only [if_true, Except.map]
      rw [← List.filter_reverse, reorder_filter,
        reorder_eq_of_perm distinct (List.reverse_perm store.records).symm]

theorem hydrate_failed {ids : List String} {reason : String}
    (fails : store.failure = some reason) (asked : ids ≠ []) (columns : List String) :
    (hydrate store ids columns).1 = .error (.recordStore reason) := by
  rw [store.hydrate_of_ids asked, store.matching_of_failure ids fails]
  cases store.hasCache <;> rfl

end MemoryStore

section

variable {τ σ : Type} [Transport τ] [RecordStore σ ρ]

theorem Builder.getRecords_of_page {builder : Builder} {transport : τ} {page : ResultPage}
    (answered : (builder.getIds transport).1 = .ok page) (store : σ) (columns : List String) :
    (builder.getRecords transport store columns).1 =
      (hydrate store (page.hits.map builder.resolveId) (builder.columnsOr columns)).1.map
        fun records => ⟨records, page.total⟩ := by
  unfold getRecords records
  rcases sent : builder.getIds transport with ⟨reply, after⟩
  rw [sent] at answered
  cases answered
  unfold hydrateHits
  dsimp only
  cases (hydrate store (page.hits.map builder.resolveId) (builder.columnsOr columns)).1 <;> rfl

end

-- A page of hits becomes one record for each id that is stored, where the id stands last among the
-- hits. Neither the order in which the records are kept nor the cache shows.
theorem get_records_in_hit_order {τ : Type} [Transport τ] (builder : Builder) (transport : τ)
    (page : ResultPage) (answered : (builder.getIds transport).1 = .ok page)
    (store : MemoryStore ρ) (distinct : (store.records.map store.key).Nodup)
    (columns : List String) :
    (store.failure = none ∨ page.hits = [] → ∃ items,
      (builder.getRecords transport store columns).1 = .ok ⟨items, page.total⟩ ∧
      items.map store.key = (page.hits.map builder.resolveId).dedup.filter
        (fun id => id ∈ store.records.map store.key) ∧
      (∀ record ∈ items, record ∈ store.records) ∧
      ∀ records hasCache, store.records.Perm records →
        (builder.getRecords transport { store with records, hasCache } columns).1 =
          .ok ⟨items, page.total⟩) ∧
    ∀ reason, store.failure = some reason → page.hits ≠ [] →
      (builder.getRecords transport store columns).1 = .error (.recordStore reason) := by
  constructor
  · intro answers
    have answersIds : store.failure = none ∨ page.hits.map builder.resolveId = [] := by
      simpa using answers
    have anyOrder (records : List ρ) (hasCache : Bool) (same : store.records.Perm records) :
        (builder.getRecords transport { store with records, hasCache } columns).1 =
          .ok ⟨reorder store.key (page.hits.map builder.resolveId) store.records, page.total⟩ := by
      have shuffled : (records.map store.key).Nodup :=
        (same.map store.key).nodup_iff.mp distinct
      rw [Builder.getRecords_of_page answered,
        MemoryStore.hydrate_eq_reorder { store with records, hasCache } _ answersIds shuffled,
        reorder_eq_of_perm distinct same]
      rfl
    refine ⟨_, anyOrder store.records store.hasCache (.refl _), map_reorder distinct, ?_, anyOrder⟩
    intro record member
    exact (List.mem_filter.mp ((reorder_perm store.records).mem_iff.mp member)).1
  · intro reason fails hits
    rw [Builder.getRecords_of_page answered,
      store.hydrate_failed fails (by simpa using hits)]
    rfl

theorem get_records_of_repeated_hits :
    let builder : Builder := { Builder.ofTarget ⟨"posts", none⟩ with
      idResolver := some (Hit.idAfter "post-") }
    let hits := ["post-5", "post-2", "post-404", "post-5"].map Hit.ofId
    let transport : RecordingTransport := { RecordingTransport.empty with page := ⟨hits, 42⟩ }
    let store := MemoryStore.ofRecords Prod.fst [("2", "two"), ("5", "five"), ("7", "seven")]
    (builder.getIds transport).1 = .ok ⟨hits, 42⟩ ∧ (store.records.map store.key).Nodup ∧
    store.failure = none ∧
    ∃ items, (builder.getRecords transport store []).1 = .ok ⟨items, 42⟩ ∧
      items.map store.key = ["2", "5"] := by
  intro builder hits transport store
  have answered : (builder.getIds transport).1 = .ok ⟨hits, 42⟩ := rfl
  have distinct : (store.records.map store.key).Nodup := by decide
  refine ⟨answered, distinct, rfl, ?_⟩
  obtain ⟨items, found, order, _⟩ :=
    (get_records_in_hit_order builder transport _ answered store distinct []).1 (.inl rfl)
  refine ⟨items, found, ?_⟩
  rw [order]
  decide +kernel

theorem get_records_of_failing_store :
    let transport : RecordingTransport := { RecordingTransport.empty with page := ⟨[.ofId "5"], 1⟩ }
    let store := { MemoryStore.ofRecords id ["5"] with failure := some "db down" }
    (store.records.map store.key).Nodup ∧ ∀ collection,
      ((Builder.ofTarget ⟨"posts", none⟩).getRecords transport store []).1 ≠ .ok collection := by
  intro transport store
  exact ⟨by decide, nofun⟩

end SearchQuery
