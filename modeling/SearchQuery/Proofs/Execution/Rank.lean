import Mathlib.Data.List.Dedup
import SearchQuery.Execution.Hydration

namespace SearchQuery

variable {ρ : Type} {recordId : ρ → String} {ids : List String}

theorem rank?_of_mem {id : String} (member : id ∈ ids) :
    ∃ position, rank? ids id = some position := by
  rw [← Option.isSome_iff_exists, Option.isSome_iff_ne_none]
  intro unranked
  exact rank?_eq_none_iff.mp unranked member

theorem rank?_cons_of_later {first id : String} {position : Nat}
    (later : rank? ids id = some position) : rank? (first :: ids) id = some (position + 1) := by
  rw [rank?, later]

theorem eq_of_ranks_le {a b : String} (member : a ∈ ids) (below : rank? ids a ≤ rank? ids b)
    (above : rank? ids b ≤ rank? ids a) : a = b := by
  obtain ⟨i, rankedA⟩ := rank?_of_mem member
  rw [rankedA] at below above
  cases rankedB : rank? ids b with
  | none => simp [rankedB] at below
  | some j =>
    rw [rankedB, Option.some_le_some] at below above
    have same : i = j := Nat.le_antisymm below above
    subst same
    have found := getElem?_of_rank? rankedA
    rw [getElem?_of_rank? rankedB] at found
    exact (Option.some.inj found).symm

theorem dedup_pairwise_rank (ids : List String) :
    ids.dedup.Pairwise fun a b => rank? ids a ≤ rank? ids b := by
  induction ids with
  | nil => simp
  | cons first rest ih =>
    have shifted : rest.dedup.Pairwise fun a b =>
        rank? (first :: rest) a ≤ rank? (first :: rest) b := by
      refine ih.imp_of_mem ?_
      intro a b memberA memberB below
      obtain ⟨i, rankedA⟩ := rank?_of_mem (List.mem_dedup.mp memberA)
      obtain ⟨j, rankedB⟩ := rank?_of_mem (List.mem_dedup.mp memberB)
      rw [rankedA, rankedB, Option.some_le_some] at below
      rw [rank?_cons_of_later rankedA, rank?_cons_of_later rankedB, Option.some_le_some]
      omega
    by_cases again : first ∈ rest
    · rwa [List.dedup_cons_of_mem again]
    · rw [List.dedup_cons_of_notMem again, List.pairwise_cons]
      refine ⟨?_, shifted⟩
      intro other member
      obtain ⟨j, ranked⟩ := rank?_of_mem (List.mem_dedup.mp member)
      have least : rank? (first :: rest) first = some 0 := by
        simp [rank?, rank?_eq_none_iff.mpr again]
      rw [least, rank?_cons_of_later ranked, Option.some_le_some]
      omega

def ranked (recordId : ρ → String) (ids : List String) (records : List ρ) : List (Nat × ρ) :=
  records.filterMap fun record => (rank? ids (recordId record)).map fun rank => (rank, record)

theorem rank?_of_mem_ranked {records : List ρ} {entry : Nat × ρ}
    (member : entry ∈ ranked recordId ids records) :
    rank? ids (recordId entry.2) = some entry.1 := by
  obtain ⟨record, _, paired⟩ := List.mem_filterMap.mp member
  obtain ⟨rank, found, rfl⟩ := Option.map_eq_some_iff.mp paired
  exact found

theorem map_snd_ranked (records : List ρ) :
    (ranked recordId ids records).map (·.2) =
      records.filter fun record => ids.contains (recordId record) := by
  induction records with
  | nil => rfl
  | cons record rest ih =>
    by_cases member : recordId record ∈ ids
    · obtain ⟨rank, found⟩ := rank?_of_mem member
      simpa [ranked, found, member] using ih
    · simpa [ranked, rank?_eq_none_iff.mpr member, member] using ih

theorem reorder_perm (records : List ρ) :
    (reorder recordId ids records).Perm
      (records.filter fun record => ids.contains (recordId record)) := by
  rw [← map_snd_ranked]
  exact (List.mergeSort_perm _ _).map _

theorem byRank_trans (a b c : Nat × ρ) (ab : decide (a.1 ≤ b.1) = true)
    (bc : decide (b.1 ≤ c.1) = true) : decide (a.1 ≤ c.1) = true := by
  simp only [decide_eq_true_eq] at ab bc ⊢
  exact Nat.le_trans ab bc

theorem byRank_total (a b : Nat × ρ) : (decide (a.1 ≤ b.1) || decide (b.1 ≤ a.1)) = true := by
  simp only [Bool.or_eq_true, decide_eq_true_eq]
  exact Nat.le_total _ _

theorem reorder_pairwise (records : List ρ) :
    (reorder recordId ids records).Pairwise fun a b =>
      rank? ids (recordId a) ≤ rank? ids (recordId b) := by
  have sorted := List.pairwise_mergeSort byRank_trans byRank_total (ranked recordId ids records)
  refine List.pairwise_map.mpr (sorted.imp_of_mem ?_)
  intro a b memberA memberB below
  rw [rank?_of_mem_ranked (List.mem_mergeSort.mp memberA),
    rank?_of_mem_ranked (List.mem_mergeSort.mp memberB), Option.some_le_some]
  exact of_decide_eq_true below

-- A store may leave out beforehand what reordering drops anyway.
theorem reorder_filter (records : List ρ) :
    reorder recordId ids (records.filter fun record => ids.contains (recordId record)) =
      reorder recordId ids records := by
  have dropped (record : ρ) :
      (if ids.contains (recordId record) then
        (rank? ids (recordId record)).map fun rank => (rank, record) else none) =
      (rank? ids (recordId record)).map fun rank => (rank, record) := by
    by_cases member : recordId record ∈ ids
    · simp [member]
    · simp [member, rank?_eq_none_iff.mpr member]
  unfold reorder
  simp only [List.filterMap_filter, dropped]

section

variable {records others : List ρ}

theorem reorder_eq_of_perm (distinct : (records.map recordId).Nodup)
    (same : records.Perm others) :
    reorder recordId ids records = reorder recordId ids others := by
  have shuffled : (reorder recordId ids records).Perm (reorder recordId ids others) :=
    (reorder_perm records).trans ((same.filter _).trans (reorder_perm others).symm)
  refine shuffled.eq_of_pairwise ?_ (reorder_pairwise records) (reorder_pairwise others)
  intro a b memberA memberB below above
  have keptA := List.mem_filter.mp ((reorder_perm records).mem_iff.mp memberA)
  have keptB := List.mem_filter.mp ((reorder_perm others).mem_iff.mp memberB)
  have sameId := eq_of_ranks_le (List.contains_iff_mem.mp keptA.2) below above
  exact List.inj_on_of_nodup_map distinct keptA.1 (same.mem_iff.mpr keptB.1) sameId

theorem mem_map_reorder {id : String} :
    id ∈ (reorder recordId ids records).map recordId ↔
      id ∈ ids ∧ id ∈ records.map recordId := by
  simp only [List.mem_map, (reorder_perm records).mem_iff, List.mem_filter,
    List.contains_iff_mem]
  constructor
  · rintro ⟨record, ⟨stored, asked⟩, rfl⟩
    exact ⟨asked, record, stored, rfl⟩
  · rintro ⟨asked, record, stored, rfl⟩
    exact ⟨record, ⟨stored, asked⟩, rfl⟩

theorem map_reorder (distinct : (records.map recordId).Nodup) :
    (reorder recordId ids records).map recordId =
      ids.dedup.filter fun id => id ∈ records.map recordId := by
  have once : ((reorder recordId ids records).map recordId).Nodup := by
    refine ((reorder_perm records).map recordId).nodup_iff.mpr ?_
    exact distinct.sublist ((List.filter_sublist ..).map recordId)
  have shuffled : ((reorder recordId ids records).map recordId).Perm
      (ids.dedup.filter fun id => id ∈ records.map recordId) := by
    rw [List.perm_ext_iff_of_nodup once ((List.nodup_dedup ids).filter _)]
    intro id
    rw [mem_map_reorder, List.mem_filter, List.mem_dedup, decide_eq_true_eq]
  refine shuffled.eq_of_pairwise ?_ (List.pairwise_map.mpr (reorder_pairwise records))
    ((dedup_pairwise_rank ids).filter _)
  intro a b member _
  exact eq_of_ranks_le (mem_map_reorder.mp member).1

end

end SearchQuery
