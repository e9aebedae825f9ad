import SearchQuery.Proofs.Execution.Requests

namespace SearchQuery

namespace Json

def skipped (body : Json) : Nat := ((body.get? "from").bind word?).getD 0

structure Windowed (body : Json) (start size : Int) : Prop where
  size : body.get? "size" = some (.int size)
  start : body.get? "from" = if start = 0 then none else some (.int start)

theorem Windowed.skipped_eq {body : Json} {start size : Int} (windowed : body.Windowed start size)
    (signed : 0 ≤ start ∧ start ≤ Number.greatestSigned) : (body.skipped : Int) = start := by
  have bounds : Number.greatestSigned = 9223372036854775807 ∧
      Number.greatestWord = 18446744073709551615 := ⟨rfl, rfl⟩
  unfold skipped
  rw [windowed.start]
  by_cases first : start = 0
  · simp [first]
  · have word : 0 ≤ start ∧ start ≤ (Number.greatestWord : Int) := by omega
    simp only [if_neg first, Option.bind_some, int, word?, Number.word?, if_pos word,
      Option.getD_some]
    omega

end Json

structure Paginator.Placed {α : Type} (paginator : Paginator α) (body : Json)
    (page size : Int) : Prop where
  perPage : (paginator.perPage : Int) = size
  currentPage : (paginator.currentPage : Int) = max page 1
  firstItem : paginator.items ≠ [] →
    (paginator.firstItem? = some (body.skipped + 1) ↔
      hitsBefore page size ≤ Number.greatestSigned)

namespace Builder

variable (builder : Builder) {size : Int} (positive : 0 < size) (page : Int)

include positive

theorem windowed_pageRequest (source : SourceFilter) :
    (builder.pageRequest size page source).toJson.Windowed
      (min (hitsBefore page size) Number.greatestSigned) size := by
  have before := hitsBefore_nonneg positive page
  have bound : Number.greatestSigned = 9223372036854775807 := rfl
  have word {n : Int} (natural : 0 ≤ n) : Json.nat n.toNat = .int n := by
    rw [Json.nat, Json.int, Int.toNat_of_nonneg natural]
  constructor
  · rw [Request.get?_size]
    exact congrArg some (word (by omega))
  · rw [Request.get?_from]
    by_cases first : min (hitsBefore page size) Number.greatestSigned = 0
    · simp [pageRequest, first]
    · have skips : 0 < (min (hitsBefore page size) Number.greatestSigned).toNat := by omega
      rw [if_neg first, ← word (by omega)]
      simp [pageRequest, Option.filter, skips]

theorem firstItem?_paginator {α : Type} {items : List α} (filled : items ≠ []) (total : Nat) :
    (builder.paginator items total size page).firstItem? =
      some (capWord (capWord (hitsBefore page size).toNat + 1)) := by
  have pages : ((max (max page 1).toNat 1 - 1 : Nat) : Int) = max page 1 - 1 := by omega
  have sizes : ((max size.toNat 1 : Nat) : Int) = size := by omega
  have product : hitsBefore page size =
      ((max (max page 1).toNat 1 - 1) * max size.toNat 1 : Nat) := by
    rw [Int.natCast_mul, pages, sizes, hitsBefore]
  have shown : items.isEmpty = false := by simpa using filled
  rw [product, Int.toNat_natCast]
  simp [Paginator.firstItem?, paginator, Paginator.ofPage, Paginator.withPageName, shown]

theorem placed_paginator {α : Type} (items : List α) (total : Nat) (source : SourceFilter) :
    (builder.paginator items total size page).Placed
      (builder.pageRequest size page source).toJson page size := by
  have before := hitsBefore_nonneg positive page
  have bounds : Number.greatestSigned = 9223372036854775807 ∧
      Number.greatestWord = 18446744073709551615 := ⟨rfl, rfl⟩
  refine ⟨?_, ?_, ?_⟩
  · simp only [paginator, Paginator.ofPage, Paginator.withPageName]
    omega
  · simp only [paginator, Paginator.ofPage, Paginator.withPageName]
    omega
  · intro filled
    have skipped := (builder.windowed_pageRequest positive page source).skipped_eq (by omega)
    have first : (builder.paginator items total size page).firstItem? = _ :=
      builder.firstItem?_paginator positive page filled total
    rw [first, Option.some_inj, capWord, capWord]
    omega

end Builder

-- A page that comes back is placed by the numbers by which it was asked for: its first item is the
-- one after the hits that were skipped, as long as these can be counted in a signed word.
theorem page_window_and_positions_agree (builder : Builder) (perPage : Option Int) (page : Int)
    (columns : List String) (positive : 0 < perPage.getD builder.perPage) :
    let size := perPage.getD builder.perPage
    let start := min (hitsBefore page size) Number.greatestSigned
    (∃ body : Json, body.Windowed start size ∧
      ∀ {τ : Type} [Transport τ] (transport : τ),
        let reply := Transport.search transport builder.target body
        (builder.paginate transport perPage page columns).2 = reply.2 ∧
        ∀ found, reply.1 = .ok found → ∃ paginator,
          (builder.paginate transport perPage page columns).1 = .ok paginator ∧
          paginator.items = found.hits ∧ paginator.Placed body page size) ∧
    ∃ body : Json, body.Windowed start size ∧
      ∀ {τ σ ρ : Type} [Transport τ] [RecordStore σ ρ] (transport : τ) (store : σ),
        let reply := Transport.search transport builder.target body
        (builder.paginateRecords transport store perPage page columns).2.1 = reply.2 ∧
        ∀ found records, reply.1 = .ok found →
          (builder.hydrateHits store found columns).1 = .ok records → ∃ paginator,
            (builder.paginateRecords transport store perPage page columns).1 = .ok paginator ∧
            paginator.items = records ∧ paginator.Placed body page size := by
  intro size start
  constructor
  · refine ⟨_, builder.windowed_pageRequest positive page (.fields (builder.columnsOr columns)), ?_⟩
    intro τ _ transport reply
    rw [builder.paginate_eq perPage positive]
    refine ⟨rfl, ?_⟩
    intro found answered
    refine ⟨builder.paginator found.hits found.total size page, ?_, rfl,
      builder.placed_paginator positive page _ _ _⟩
    exact congrArg (Except.map _) answered
  · refine ⟨_, builder.windowed_pageRequest positive page .disabled, ?_⟩
    intro τ σ ρ _ _ transport store reply
    rw [builder.paginateRecords_eq perPage positive]
    refine ⟨builder.hydrateReply_transport store columns reply, ?_⟩
    intro found records answered hydrated
    refine ⟨builder.paginator records found.total size page, ?_, rfl,
      builder.placed_paginator positive page _ _ _⟩
    dsimp only
    rw [builder.hydrateReply_answered store columns answered, hydrated]
    rfl

theorem page_beyond_signed_words :
    let builder := ((Builder.ofTarget ⟨"posts", none⟩).skip 7).take 2
    let transport : RecordingTransport := { RecordingTransport.empty with page := ⟨[.ofId "5"], 1⟩ }
    0 < (some 3).getD builder.perPage ∧
    ∃ body paginator,
      builder.paginate transport (some 3) 4611686018427387905 [] =
        (.ok paginator, transport.record .search builder.target body) ∧
      body.Windowed Number.greatestSigned 3 ∧ paginator.firstItem? ≠ some (body.skipped + 1) := by
  intro builder transport
  refine ⟨by decide, ?_⟩
  obtain ⟨body, windowed, sent⟩ := (page_window_and_positions_agree builder (some 3)
    4611686018427387905 [] (by decide)).1
  obtain ⟨asked, answered⟩ := sent transport
  obtain ⟨paginator, paged, items, placed⟩ := answered _ rfl
  refine ⟨body, paginator, Prod.ext paged asked, windowed, ?_⟩
  intro exact
  have filled : paginator.items ≠ [] := by rw [items]; exact List.cons_ne_nil _ _
  exact absurd ((placed.firstItem filled).mp exact) (by decide)

end SearchQuery
