import SearchQuery.Proofs.Execution.Requests

namespace SearchQuery

-- Hits and the records behind them are found by one search. The execution that hydrates sends what
-- the raw one sends, but for the stored fields, and it fails and counts as the raw one does.

section

variable {τ σ ρ α β : Type} [RecordStore σ ρ]

-- A raw and a hydrating outcome beside the replies to the two bodies. A transport may go by the
-- whole body, so the replies may differ; the outcomes agree if they do not.
structure SameSearch (builder : Builder) (columns : List String) (store : σ) (agree : α → β → Prop)
    (shown hidden : Except Error ResultPage × τ) (raw : Except Error α × τ)
    (hydrating : Except Error β × τ × σ) : Prop where
  raw_asked : raw.2 = shown.2
  raw_failed : ∀ error, raw.1 = .error error ↔ shown.1 = .error error
  hydrating_asked : hydrating.2.1 = hidden.2
  hydrating_failed : ∀ error, hidden.1 = .error error → hydrating = (.error error, hidden.2, store)
  answered : ∀ found, shown.1 = .ok found → hidden.1 = .ok found →
    ∃ page finish, raw.1 = .ok page ∧
      hydrating.1 = (builder.hydrateHits store found columns).1.map finish ∧
      ∀ records, agree page (finish records)

theorem sameSearch_of_replies (builder : Builder) (columns : List String) (store : σ)
    {agree : α → β → Prop} {page : ResultPage → α} {finish : List ρ × ResultPage → β}
    (agrees : ∀ records found, agree (page found) (finish (records, found)))
    (shown hidden : Except Error ResultPage × τ) :
    SameSearch builder columns store agree shown hidden (shown.1.map page, shown.2)
      ((builder.hydrateReply store columns hidden).1.map finish,
        (builder.hydrateReply store columns hidden).2) where
  raw_asked := rfl
  raw_failed error := by cases shown.1 <;> simp [Except.map]
  hydrating_asked := builder.hydrateReply_transport store columns hidden
  hydrating_failed error failed := by
    rw [builder.hydrateReply_failed store columns failed]
    rfl
  answered found foundRaw foundIds := by
    refine ⟨page found, fun records => finish (records, found), ?_, ?_, ?_⟩
    · rw [foundRaw]
      rfl
    · rw [builder.hydrateReply_answered store columns foundIds]
      cases (builder.hydrateHits store found columns).1 <;> rfl
    · intro records
      exact agrees records found

end

theorem raw_and_hydrating_searches_agree {τ σ ρ : Type} [Transport τ] [RecordStore σ ρ]
    (builder : Builder) (columns : List String) (perPage : Option Int) (page : Int)
    (transport : τ) (store : σ) :
    let reply (members : List (String × Json)) (stored : Json) :=
      Transport.search transport builder.target (.object (members ++ [("_source", stored)]))
    let shown :=
      Json.array ((if columns = [] then builder.columns else columns).map Json.string)
    (∃ members, "_source" ∉ members.map (·.1) ∧
      SameSearch builder columns store (fun found collection => collection.total = found.total)
        (reply members shown) (reply members (.bool false))
        (builder.get transport columns) (builder.getRecords transport store columns)) ∧
    (∃ members, "_source" ∉ members.map (·.1) ∧
      SameSearch builder columns store (fun _ _ => True)
        (reply members shown) (reply members (.bool false))
        (builder.first transport columns) (builder.firstRecord transport store columns)) ∧
    (0 < perPage.getD builder.perPage → ∃ members, "_source" ∉ members.map (·.1) ∧
      SameSearch builder columns store
        (fun hits records => records.total = hits.total ∧ records.perPage = hits.perPage ∧
          records.currentPage = hits.currentPage ∧ records.pageName = hits.pageName ∧
          records.lastPage = hits.lastPage)
        (reply members shown) (reply members (.bool false))
        (builder.paginate transport perPage page columns)
        (builder.paginateRecords transport store perPage page columns)) ∧
    (perPage.getD builder.perPage ≤ 0 → ∃ error,
      builder.paginate transport perPage page columns = (.error error, transport) ∧
      builder.paginateRecords transport store perPage page columns =
        (.error error, transport, store)) := by
  intro reply shown
  have fields : shown = (SourceFilter.fields (builder.columnsOr columns)).toJson := by
    rw [builder.columnsOr_eq]
    rfl
  rw [fields]
  refine ⟨⟨_, (builder.toRequest .disabled).source_notMem_members, ?_⟩,
    ⟨_, (builder.firstRequest .disabled).source_notMem_members, ?_⟩, ?_, ?_⟩
  · have raw : builder.get transport columns =
        ((builder.get transport columns).1.map id, (builder.get transport columns).2) := by
      rcases builder.get transport columns with ⟨_ | _, _⟩ <;> rfl
    rw [raw, builder.getRecords_eq]
    exact sameSearch_of_replies builder columns store (fun _ _ => rfl) _ _
  · rw [builder.first_eq, builder.firstRecord_eq]
    exact sameSearch_of_replies builder columns store (fun _ _ => trivial) _ _
  · intro positive
    let request := builder.pageRequest (perPage.getD builder.perPage) page .disabled
    refine ⟨request.members, request.source_notMem_members, ?_⟩
    rw [builder.paginate_eq perPage positive, builder.paginateRecords_eq perPage positive]
    exact sameSearch_of_replies builder columns store
      (fun _ _ => ⟨rfl, rfl, rfl, rfl, rfl⟩) _ _
  · intro refused
    exact ⟨_, builder.paginate_refused perPage refused transport page columns,
      builder.paginateRecords_refused perPage refused transport store page columns⟩

theorem page_of_records_counted_like_hits :
    let builder := (Builder.ofTarget ⟨"posts", none⟩).orderBy "age" "asc"
    let hits := ["5", "404"].map Hit.ofId
    let transport : RecordingTransport := { RecordingTransport.empty with page := ⟨hits, 42⟩ }
    let store := MemoryStore.ofRecords id ["5", "7"]
    0 < (some 10).getD builder.perPage ∧ ∃ page records,
      (builder.paginate transport (some 10) 3 []).1 = .ok page ∧
      (builder.paginateRecords transport store (some 10) 3 []).1 = .ok records ∧
      records.total = page.total ∧ records.lastPage = page.lastPage := by
  intro builder hits transport store
  obtain ⟨_, _, paged, _⟩ :=
    raw_and_hydrating_searches_agree builder [] (some 10) 3 transport store
  obtain ⟨_, _, same⟩ := paged (by decide)
  obtain ⟨page, finish, found, hydrated, agree⟩ := same.answered _ rfl rfl
  obtain ⟨total, _, _, _, last⟩ := agree ["5"]
  have alone : reorder id ["5", "404"] ["5"] = ["5"] := by simp [reorder, rank?]
  have stored : (builder.hydrateHits store ⟨hits, 42⟩ []).1 = .ok ["5"] := congrArg Except.ok alone
  refine ⟨by decide, page, finish ["5"], found, ?_, total, last⟩
  exact hydrated.trans (congrArg (Except.map finish) stored)

end SearchQuery
