import SearchQuery.Proofs.Execution.HitOrder
import SearchQuery.Proofs.Execution.Requests

namespace SearchQuery

-- The first hit of a page, and the first of the records behind its hits. The two belong together
-- unless a hit further down takes the lead once the hits are ranked by where their ids stand last.

variable {ρ : Type}

namespace MemoryStore

variable (store : MemoryStore ρ)

def record? (id : String) : Option ρ := store.records.find? fun record => store.key record = id

variable {store}

theorem isSome_record? {id : String} :
    (store.record? id).isSome = true ↔ id ∈ store.records.map store.key := by
  rw [record?, List.find?_isSome, List.mem_map]
  exact exists_congr fun record => and_congr_right fun _ => decide_eq_true_iff

theorem key_of_record? {id : String} {record : ρ} (found : store.record? id = some record) :
    store.key record = id := by
  simpa using List.find?_some found

theorem record?_key (distinct : (store.records.map store.key).Nodup) {record : ρ}
    (stored : record ∈ store.records) : store.record? (store.key record) = some record := by
  have known := isSome_record?.mpr (List.mem_map_of_mem stored)
  obtain ⟨other, found⟩ := Option.isSome_iff_exists.mp known
  have same := List.inj_on_of_nodup_map distinct (List.mem_of_find?_eq_some found) stored
    (key_of_record? found)
  rw [found, same]

theorem reorder_eq_filterMap (distinct : (store.records.map store.key).Nodup) (ids : List String) :
    reorder store.key ids store.records = ids.dedup.filterMap store.record? := by
  have kept : ∀ record ∈ reorder store.key ids store.records,
      store.record? (store.key record) = some record := by
    intro record member
    have filtered := (reorder_perm store.records).mem_iff.mp member
    exact record?_key distinct (List.mem_filter.mp filtered).1
  have unknown (id : String) :
      (if id ∈ store.records.map store.key then store.record? id else none) = store.record? id := by
    split
    · rfl
    · rename_i absent
      rw [← isSome_record?, Option.not_isSome_iff_eq_none] at absent
      exact absent.symm
  calc reorder store.key ids store.records
      = (reorder store.key ids store.records).filterMap (store.record? ∘ store.key) := by
        exact ((List.filterMap_congr kept).trans List.filterMap_some).symm
    _ = ids.dedup.filterMap store.record? := by
        rw [← List.filterMap_map, map_reorder distinct, List.filterMap_filter]
        simp only [decide_eq_true_eq, unknown]

end MemoryStore

-- The first id has a record if any has, and no other id that has one stands last before it does.
def Leads (record? : String → Option ρ) (ids : List String) : Prop :=
  ∀ id ∈ ids, (record? id).isSome = true → ∃ first, ids.head? = some first ∧
    (record? first).isSome = true ∧ rank? ids first ≤ rank? ids id

section

variable {store : MemoryStore ρ} {ids : List String}

theorem rank?_le_self {id : String} (member : id ∈ ids) : rank? ids id ≤ rank? ids id := by
  obtain ⟨position, ranked⟩ := rank?_of_mem member
  simp only [ranked, Option.some_le_some, Nat.le_refl]

theorem findSome?_dedup_eq_some_iff {record : ρ} :
    ids.dedup.findSome? store.record? = some record ↔
      ∃ id ∈ ids, store.record? id = some record ∧
        ∀ other ∈ ids, (store.record? other).isSome = true → rank? ids id ≤ rank? ids other := by
  have least {record : ρ} (found : ids.dedup.findSome? store.record? = some record) :
      ∃ id ∈ ids, store.record? id = some record ∧
        ∀ other ∈ ids, (store.record? other).isSome = true → rank? ids id ≤ rank? ids other := by
    obtain ⟨before, id, after, split, here, earlier⟩ := List.findSome?_eq_some_iff.mp found
    have order := dedup_pairwise_rank ids
    have place {other : String} : other ∈ ids ↔ other ∈ before ∨ other = id ∨ other ∈ after := by
      rw [← List.mem_dedup, split, List.mem_append, List.mem_cons]
    rw [split, List.pairwise_append, List.pairwise_cons] at order
    refine ⟨id, place.mpr (.inr (.inl rfl)), here, ?_⟩
    intro other member known
    rcases place.mp member with missed | rfl | later
    · rw [earlier other missed] at known
      cases known
    · exact rank?_le_self member
    · exact order.2.1.1 other later
  constructor
  · exact least
  · rintro ⟨id, member, here, first⟩
    cases found : ids.dedup.findSome? store.record? with
    | none =>
      have absent := List.findSome?_eq_none_iff.mp found id (List.mem_dedup.mpr member)
      rw [absent] at here
      cases here
    | some other =>
      obtain ⟨otherId, otherMember, otherHere, otherFirst⟩ := least found
      have below := first otherId otherMember (by rw [otherHere]; rfl)
      have above := otherFirst id member (by rw [here]; rfl)
      -- Neither id stands last before the other, so they are one.
      rw [eq_of_ranks_le member below above] at here
      rw [← here, ← otherHere]

theorem findSome?_dedup_eq_head?_iff :
    ids.dedup.findSome? store.record? = ids.head?.bind store.record? ↔
      Leads store.record? ids := by
  constructor
  · intro same id member known
    have some : (ids.dedup.findSome? store.record?).isSome = true :=
      List.findSome?_isSome_iff.mpr ⟨id, List.mem_dedup.mpr member, known⟩
    obtain ⟨record, found⟩ := Option.isSome_iff_exists.mp some
    obtain ⟨least, _, here, first⟩ := findSome?_dedup_eq_some_iff.mp found
    rw [found] at same
    obtain ⟨head, leads, behind⟩ := Option.bind_eq_some_iff.mp same.symm
    -- A record tells its id, so the record that is found is the first hit's by its id.
    have one : least = head := by
      rw [← MemoryStore.key_of_record? here, ← MemoryStore.key_of_record? behind]
    subst one
    exact ⟨least, leads, by rw [here]; rfl, first id member known⟩
  · intro leads
    cases behind : ids.head?.bind store.record? with
    | none =>
      rw [List.findSome?_eq_none_iff]
      intro id member
      rw [List.mem_dedup] at member
      by_contra known
      rw [← ne_eq, Option.ne_none_iff_isSome] at known
      obtain ⟨first, head, leader, _⟩ := leads id member known
      rw [head, Option.bind_some] at behind
      rw [behind] at leader
      cases leader
    | some record =>
      obtain ⟨first, head, here⟩ := Option.bind_eq_some_iff.mp behind
      refine findSome?_dedup_eq_some_iff.mpr ⟨first, List.mem_of_head? head, here, ?_⟩
      intro other member known
      obtain ⟨leader, same, _, below⟩ := leads other member known
      rw [head] at same
      cases same
      exact below

theorem leads_of_lone (short : ids.length ≤ 1) (record? : String → Option ρ) :
    Leads record? ids := by
  intro id member known
  have alone : ids = [id] := by
    obtain ⟨only, rfl⟩ := List.length_eq_one_iff.mp
      (Nat.le_antisymm short (List.length_pos_of_mem member))
    rw [List.mem_singleton.mp member]
  exact ⟨id, by rw [alone]; rfl, known, rank?_le_self member⟩

end

theorem Builder.firstRecord_of_page {τ : Type} [Transport τ] {builder : Builder} {transport : τ}
    {page : ResultPage} (answered : ((builder.take 1).getIds transport).1 = .ok page)
    (store : MemoryStore ρ) (columns : List String) :
    (builder.firstRecord transport store columns).1 =
      (hydrate store (page.hits.map builder.resolveId) (builder.columnsOr columns)).1.map
        List.head? := by
  have replied : (Transport.search transport builder.target
      (builder.firstRequest .disabled).toJson).1 = .ok page := answered
  rw [builder.firstRecord_eq transport store columns]
  dsimp only
  rw [builder.hydrateReply_answered store columns replied, Builder.hydrateHits]
  cases (hydrate store (page.hits.map builder.resolveId) (builder.columnsOr columns)).1 <;> rfl

-- The first record is that of the stored id whose last occurrence comes first, which is the first
-- hit's record exactly as long as its id leads.
theorem first_record_exact {τ : Type} [Transport τ] (builder : Builder) (transport : τ)
    (store : MemoryStore ρ) (distinct : (store.records.map store.key).Nodup)
    (columns : List String) (page : ResultPage) :
    let ids := page.hits.map builder.resolveId
    (((builder.take 1).get transport columns).1 = .ok page →
      (builder.first transport columns).1 = .ok page.hits.head?) ∧
    (((builder.take 1).getIds transport).1 = .ok page →
      (store.failure = none ∨ page.hits = [] →
        (builder.firstRecord transport store columns).1 =
          .ok (ids.dedup.findSome? store.record?) ∧
        ((builder.firstRecord transport store columns).1 =
            .ok (page.hits.head?.bind fun hit => store.record? (builder.resolveId hit)) ↔
          Leads store.record? ids) ∧
        (page.hits.length ≤ 1 → Leads store.record? ids)) ∧
      ∀ reason, store.failure = some reason → page.hits ≠ [] →
        (builder.firstRecord transport store columns).1 = .error (.recordStore reason)) := by
  intro ids
  have behind : (page.hits.head?.bind fun hit => store.record? (builder.resolveId hit)) =
      ids.head?.bind store.record? := by
    rw [List.head?_map, Option.bind_map]
    rfl
  refine ⟨?_, ?_⟩
  · intro answered
    have sent : (builder.first transport columns).1 =
        ((builder.take 1).get transport columns).1.map fun page => page.hits.head? := rfl
    rw [sent, answered]
    rfl
  · intro answered
    refine ⟨?_, ?_⟩
    · intro answers
      have answersIds : store.failure = none ∨ ids = [] := by
        simpa [ids] using answers
      have found : (builder.firstRecord transport store columns).1 =
          .ok (ids.dedup.findSome? store.record?) := by
        rw [Builder.firstRecord_of_page answered,
          store.hydrate_eq_reorder _ answersIds distinct,
          MemoryStore.reorder_eq_filterMap distinct, Except.map, List.head?_filterMap]
      refine ⟨found, ?_, ?_⟩
      · rw [found, behind, Except.ok.injEq]
        exact findSome?_dedup_eq_head?_iff
      · intro short
        exact leads_of_lone (by simpa [ids] using short) _
    · intro reason fails hits
      rw [Builder.firstRecord_of_page answered, store.hydrate_failed fails (by simpa using hits)]
      rfl

theorem first_record_of_led_page :
    let builder : Builder := { Builder.ofTarget ⟨"posts", none⟩ with
      idResolver := some (Hit.idAfter "post-") }
    let hits := ["post-5", "post-404", "post-2"].map Hit.ofId
    let transport : RecordingTransport := { RecordingTransport.empty with page := ⟨hits, 42⟩ }
    let store := MemoryStore.ofRecords Prod.fst [("2", "two"), ("5", "five"), ("7", "seven")]
    (store.records.map store.key).Nodup ∧ store.failure = none ∧
    ((builder.take 1).getIds transport).1 = .ok ⟨hits, 42⟩ ∧
    (builder.first transport []).1 = .ok (some (.ofId "post-5")) ∧
    (builder.firstRecord transport store []).1 = .ok (some ("5", "five")) := by
  intro builder hits transport store
  have distinct : (store.records.map store.key).Nodup := by decide
  have answered : ((builder.take 1).getIds transport).1 = .ok ⟨hits, 42⟩ := rfl
  obtain ⟨first, records⟩ := first_record_exact builder transport store distinct [] ⟨hits, 42⟩
  obtain ⟨found, _, _⟩ := (records answered).1 (.inl rfl)
  refine ⟨distinct, rfl, answered, first rfl, found.trans (congrArg Except.ok ?_)⟩
  decide +kernel

-- A transport may answer more hits than it is asked for. If the first of them has no record, the
-- record of a later hit is taken for its own.
theorem first_record_of_later_hit :
    let builder := Builder.ofTarget ⟨"idx", none⟩
    let transport : RecordingTransport :=
      { RecordingTransport.empty with page := ⟨["404", "2"].map Hit.ofId, 2⟩ }
    let store := MemoryStore.ofRecords id ["2"]
    (store.records.map store.key).Nodup ∧ store.failure = none ∧ store.record? "404" = none ∧
    (builder.first transport []).1 = .ok (some (.ofId "404")) ∧
    (builder.firstRecord transport store []).1 = .ok (some "2") := by
  intro builder transport store
  have alone : reorder id ["404", "2"] ["2"] = ["2"] := by simp [reorder, rank?]
  refine ⟨by decide, rfl, rfl, rfl, ?_⟩
  exact congrArg (fun records => Except.ok (List.head? records)) alone

end SearchQuery
