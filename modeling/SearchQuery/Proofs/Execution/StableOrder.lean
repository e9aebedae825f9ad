import SearchQuery.Proofs.Execution.Rank

namespace SearchQuery

-- What reordering keeps of the records: none that is asked for is lost, none is added, and those of
-- one id stay in the order in which they came.

structure LastAt (ids : List String) (id : String) (position : Nat) : Prop where
  here : ids[position]? = some id
  last : ∀ other, ids[other]? = some id → other ≤ position

section

variable {ρ : Type} {ids : List String} {id : String}

theorem lastAt_of_rank? {position : Nat} (ranked : rank? ids id = some position) :
    LastAt ids id position := by
  refine ⟨getElem?_of_rank? ranked, ?_⟩
  induction ids generalizing position with
  | nil => simp
  | cons first rest ih =>
    intro other found
    cases other with
    | zero => exact Nat.zero_le _
    | succ other =>
      rw [List.getElem?_cons_succ] at found
      obtain ⟨later, rankedLater⟩ := rank?_of_mem (List.mem_of_getElem? found)
      have bound := ih rankedLater other found
      rw [rank?_cons_of_later rankedLater] at ranked
      cases ranked
      exact Nat.succ_le_succ bound

theorem lastAt_of_ranks_le {a b : String} (memberA : a ∈ ids) (memberB : b ∈ ids)
    (below : rank? ids a ≤ rank? ids b) : ∃ i j, LastAt ids a i ∧ LastAt ids b j ∧ i ≤ j := by
  obtain ⟨i, rankedA⟩ := rank?_of_mem memberA
  obtain ⟨j, rankedB⟩ := rank?_of_mem memberB
  rw [rankedA, rankedB, Option.some_le_some] at below
  exact ⟨i, j, lastAt_of_rank? rankedA, lastAt_of_rank? rankedB, below⟩

theorem mem_of_mem_reorder {recordId : ρ → String} {records : List ρ} {record : ρ}
    (kept : record ∈ reorder recordId ids records) : recordId record ∈ ids := by
  have filtered := (reorder_perm records).mem_iff.mp kept
  exact List.contains_iff_mem.mp (List.mem_filter.mp filtered).2

variable (recordId : ρ → String) (records : List ρ)

theorem level_of_id (ids : List String) (id : String) :
    ((ranked recordId ids records).filter fun entry => recordId entry.2 = id).Pairwise
      fun a b => decide (a.1 ≤ b.1) = true := by
  refine List.pairwise_of_forall_mem_list ?_
  intro a memberA b memberB
  obtain ⟨rankedA, idA⟩ := List.mem_filter.mp memberA
  obtain ⟨rankedB, idB⟩ := List.mem_filter.mp memberB
  have rankA := rank?_of_mem_ranked rankedA
  have rankB := rank?_of_mem_ranked rankedB
  rw [of_decide_eq_true idA] at rankA
  rw [of_decide_eq_true idB, rankA, Option.some_inj] at rankB
  simp [rankB]

theorem filter_asked (asked : id ∈ ids) :
    (records.filter fun record => ids.contains (recordId record)).filter
        (fun record => recordId record = id) =
      records.filter fun record => recordId record = id := by
  rw [List.filter_filter]
  apply List.filter_congr
  intro record _
  by_cases same : recordId record = id
  · simp [same, asked]
  · simp [same]

-- Sorting moves no two entries of one rank past each other, so the records of an id are found in
-- the sorted list as they are in the fetched one.
theorem records_of_id_sublist (asked : id ∈ ids) :
    (records.filter fun record => recordId record = id).Sublist
      (reorder recordId ids records) := by
  have kept := List.sublist_mergeSort byRank_trans byRank_total
    (level_of_id recordId records ids id) List.filter_sublist
  have chosen : ((ranked recordId ids records).filter fun entry => recordId entry.2 = id).map
      (·.2) = records.filter fun record => recordId record = id := by
    rw [← filter_asked recordId records asked, ← map_snd_ranked, List.filter_map]
    rfl
  rw [← chosen]
  exact kept.map _

theorem filter_reorder (asked : id ∈ ids) :
    (reorder recordId ids records).filter (fun record => recordId record = id) =
      records.filter fun record => recordId record = id := by
  have kept : (reorder recordId ids records).Perm _ := reorder_perm records
  have shuffled := kept.filter fun record => recordId record = id
  rw [filter_asked recordId records asked] at shuffled
  have found := (records_of_id_sublist recordId records asked).filter
    fun record => recordId record = id
  simp only [List.filter_filter, Bool.and_self] at found
  exact (found.eq_of_length shuffled.length_eq.symm).symm

end

theorem reorder_projects_stably {ρ : Type} (recordId : ρ → String) (ids : List String)
    (records : List ρ) :
    (reorder recordId ids records).Perm (records.filter fun record => recordId record ∈ ids) ∧
    ((reorder recordId ids records).Pairwise fun a b =>
      ∃ i j, LastAt ids (recordId a) i ∧ LastAt ids (recordId b) j ∧ i ≤ j) ∧
    ∀ id, (reorder recordId ids records).filter (fun record => recordId record = id) =
      if id ∈ ids then records.filter fun record => recordId record = id else [] := by
  refine ⟨?_, ?_, ?_⟩
  · have kept : (reorder recordId ids records).Perm _ := reorder_perm records
    simpa only [List.contains_eq_mem] using kept
  · refine (reorder_pairwise records).imp_of_mem ?_
    intro a b keptA keptB below
    exact lastAt_of_ranks_le (mem_of_mem_reorder keptA) (mem_of_mem_reorder keptB) below
  · intro id
    split
    · rename_i asked
      exact filter_reorder recordId records asked
    · rename_i unasked
      rw [List.filter_eq_nil_iff]
      intro record kept
      have other : recordId record ≠ id := by
        rintro rfl
        exact unasked (mem_of_mem_reorder kept)
      simpa using other

example : reorder Prod.fst ["5", "2", "5"] [("2", 1), ("5", 2), ("9", 3), ("5", 4), ("2", 5)] =
    [("2", 1), ("2", 5), ("5", 2), ("5", 4)] := by
  cbv

end SearchQuery
