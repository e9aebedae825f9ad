import SearchQuery.Paginator

namespace SearchQuery

theorem capWord_of_le {n : Nat} (fits : n ≤ Number.greatestWord) : capWord n = n :=
  Nat.min_eq_left fits

namespace Paginator

variable {α : Type}

def Shows (page : Paginator α) (position : Nat) : Prop :=
  ∃ first last, page.firstItem? = some first ∧ page.lastItem? = some last ∧
    first ≤ position ∧ position ≤ last

theorem firstItem?_of_filled {page : Paginator α} (filled : page.items ≠ []) :
    page.firstItem? =
      some (capWord (capWord ((page.currentPage - 1) * page.perPage) + 1)) := by
  have shown : page.items.isEmpty = false := by simpa using filled
  rw [firstItem?, shown]
  rfl

theorem lastItem?_of_first {page : Paginator α} {first : Nat} (starts : page.firstItem? = some first) :
    page.lastItem? = some (capWord (first + (page.items.length - 1))) := by
  rw [lastItem?, starts, Option.map_some]

theorem positions_of_items (page : Paginator α) (filled : page.items ≠ []) :
    ∃ first last, page.firstItem? = some first ∧ page.lastItem? = some last ∧ first ≤ last ∧
      (first + (page.items.length - 1) ≤ Number.greatestWord →
        last - first = page.items.length - 1) ∧
      (Number.greatestWord < first + (page.items.length - 1) → last = Number.greatestWord) := by
  have starts := firstItem?_of_filled filled
  refine ⟨_, _, starts, lastItem?_of_first starts, ?_⟩
  have word : capWord (capWord ((page.currentPage - 1) * page.perPage) + 1) ≤
      Number.greatestWord := Nat.min_le_right ..
  generalize capWord (capWord ((page.currentPage - 1) * page.perPage) + 1) = first at word ⊢
  unfold capWord
  omega

section

variable {items : List α} {total perPage page : Nat}

theorem lastPage_le_iff {n : Nat} (natural : 1 ≤ n) :
    (ofPage items total perPage page).lastPage ≤ n ↔ total ≤ n * max perPage 1 := by
  have positive : 0 < max perPage 1 := by omega
  have pages : (ofPage items total perPage page).lastPage =
      max ((total + max perPage 1 - 1) / max perPage 1) 1 := rfl
  rw [pages, Nat.max_le, Nat.div_le_iff_le_mul_add_pred positive, Nat.mul_comm]
  omega

theorem lastPage_le_word (word : total ≤ Number.greatestWord) :
    (ofPage items total perPage page).lastPage ≤ Number.greatestWord := by
  refine (lastPage_le_iff (by decide)).mpr (Nat.le_trans word ?_)
  exact Nat.le_mul_of_pos_right _ (by omega)

theorem hasMorePages_iff (natural : 1 ≤ page) :
    (ofPage items total perPage page).hasMorePages = true ↔ page * max perPage 1 < total := by
  have current : (ofPage items total perPage page).currentPage = page := Nat.max_eq_left natural
  rw [hasMorePages, decide_eq_true_iff, current, ← Nat.not_le, lastPage_le_iff natural, Nat.not_le]

theorem onFirstPage_iff (filled : items ≠ []) :
    (ofPage items total perPage page).onFirstPage = true ↔
      (ofPage items total perPage page).firstItem? = some 1 := by
  have starts : (ofPage items total perPage page).firstItem? =
      some (capWord (capWord ((max page 1 - 1) * max perPage 1) + 1)) :=
    firstItem?_of_filled filled
  have before : (max page 1 - 1) * max perPage 1 = 0 ↔ max page 1 ≤ 1 := by
    rw [Nat.mul_eq_zero]
    omega
  have bound : 1 < Number.greatestWord := by decide
  rw [starts, onFirstPage, decide_eq_true_iff, Option.some_inj, capWord, capWord]
  change max page 1 ≤ 1 ↔ _
  omega

-- Each position lies in the window of the page that the quotient counts, and in no other.
theorem window_of_position {size position : Nat} (positive : 0 < size) (one : 1 ≤ position) :
    (position - 1) / size * size < position ∧ position ≤ ((position - 1) / size + 1) * size := by
  have floor := Nat.div_mul_le_self (position - 1) size
  have next := Nat.lt_mul_div_succ (position - 1) positive
  rw [Nat.mul_comm] at next
  omega

theorem window_before {size position before other : Nat} (behind : before * size < position)
    (among : position ≤ other * size) : before < other :=
  Nat.lt_of_mul_lt_mul_right (Nat.lt_of_lt_of_le behind among)

variable (natural : 1 ≤ page) (within : page ≤ (ofPage items total perPage page).lastPage)

include natural within

theorem before_le_total : (page - 1) * max perPage 1 ≤ total := by
  by_cases first : page = 1
  · simp [first]
  · have behind : ¬ (ofPage items total perPage page).lastPage ≤ page - 1 := by omega
    rw [lastPage_le_iff (by omega)] at behind
    omega

variable (word : total ≤ Number.greatestWord)
variable (counted : items.length = min (max perPage 1) (total - (page - 1) * max perPage 1))

include word counted

theorem positions_of_counted (filled : items ≠ []) :
    (ofPage items total perPage page).firstItem? = some ((page - 1) * max perPage 1 + 1) ∧
    (ofPage items total perPage page).lastItem? = some (min (page * max perPage 1) total) := by
  have count : 0 < items.length := List.length_pos_iff.mpr filled
  have before := before_le_total natural within
  have next : page * max perPage 1 = (page - 1) * max perPage 1 + max perPage 1 := by
    rw [← Nat.succ_mul, Nat.succ_eq_add_one, Nat.sub_add_cancel natural]
  have starts : (ofPage items total perPage page).firstItem? =
      some ((page - 1) * max perPage 1 + 1) := by
    have current : (ofPage items total perPage page).currentPage = page := Nat.max_eq_left natural
    rw [firstItem?_of_filled filled, current]
    change some (capWord (capWord ((page - 1) * max perPage 1) + 1)) = _
    rw [capWord_of_le (show (page - 1) * max perPage 1 ≤ Number.greatestWord by omega),
      capWord_of_le (by omega)]
  have last : (page - 1) * max perPage 1 + 1 + (items.length - 1) =
      min (page * max perPage 1) total := by omega
  refine ⟨starts, ?_⟩
  rw [lastItem?_of_first starts]
  change some (capWord ((page - 1) * max perPage 1 + 1 + (items.length - 1))) = _
  rw [last, capWord_of_le (by omega)]

theorem shows_iff {position : Nat} :
    (ofPage items total perPage page).Shows position ↔
      (page - 1) * max perPage 1 < position ∧ position ≤ page * max perPage 1 ∧
        position ≤ total := by
  by_cases empty : items = []
  · have before := before_le_total natural within
    have none : (ofPage items total perPage page).firstItem? = none := by
      rw [firstItem?, ofPage, empty]
      rfl
    subst empty
    constructor
    · rintro ⟨_, _, starts, _⟩
      rw [none] at starts
      cases starts
    · rintro ⟨behind, _, among⟩
      simp only [List.length_nil] at counted
      omega
  · obtain ⟨starts, ends⟩ := positions_of_counted natural within word counted empty
    constructor
    · rintro ⟨first, last, isFirst, isLast, above, below⟩
      rw [starts] at isFirst
      rw [ends] at isLast
      cases isFirst
      cases isLast
      omega
    · rintro ⟨behind, among, all⟩
      exact ⟨_, _, starts, ends, behind, Nat.le_min.mpr ⟨among, all⟩⟩

end

end Paginator

-- Every item stands on exactly one of the pages up to the last, and each page goes on where the one
-- before it ends.
theorem pages_tile_results {α : Type} (total perPage : Nat) (word : total ≤ Number.greatestWord)
    (items : Nat → List α) :
    let size := max perPage 1
    let page (number : Nat) := Paginator.ofPage (items number) total perPage number
    let last := (page 1).lastPage
    let Counted (number : Nat) :=
      (items number).length = min size (total - (number - 1) * size)
    (∀ number, (page number).lastPage = last) ∧
    (1 ≤ last ∧ last ≤ Number.greatestWord ∧ total ≤ last * size ∧
      ∀ n, 1 ≤ n → total ≤ n * size → last ≤ n) ∧
    (∀ number, 1 ≤ number → number ≤ last →
      ((page number).hasMorePages = true ↔ number * size < total) ∧
      (Counted number → items number ≠ [] →
        (page number).firstItem? = some ((number - 1) * size + 1) ∧
        (page number).lastItem? = some (min (number * size) total)) ∧
      (items number ≠ [] →
        ((page number).onFirstPage = true ↔ (page number).firstItem? = some 1))) ∧
    ((∀ number, 1 ≤ number → number ≤ last → Counted number) →
      (∀ position, 1 ≤ position ∧ position ≤ total ↔
        ∃ number, (1 ≤ number ∧ number ≤ last) ∧ (page number).Shows position) ∧
      (∀ position one other, 1 ≤ one → one ≤ last → 1 ≤ other → other ≤ last →
        (page one).Shows position → (page other).Shows position → one = other) ∧
      ∀ number, 1 ≤ number → number < last → ∃ position,
        (page number).lastItem? = some position ∧
        (page (number + 1)).firstItem? = some (position + 1)) ∧
    ∀ (held : List α) (number : Nat), held ≠ [] → ∃ first last,
      (Paginator.ofPage held total perPage number).firstItem? = some first ∧
      (Paginator.ofPage held total perPage number).lastItem? = some last ∧ first ≤ last ∧
      (first + (held.length - 1) ≤ Number.greatestWord → last - first = held.length - 1) ∧
      (Number.greatestWord < first + (held.length - 1) → last = Number.greatestWord) := by
  intro size page last Counted
  have least {n : Nat} (natural : 1 ≤ n) : last ≤ n ↔ total ≤ n * size :=
    Paginator.lastPage_le_iff natural
  have natural : 1 ≤ last := Nat.le_max_right ..
  have covers : total ≤ last * size := (least natural).mp (Nat.le_refl _)
  have positive : 0 < size := by omega
  refine ⟨fun _ => rfl, ⟨natural, Paginator.lastPage_le_word word, covers,
    fun n one => (least one).mpr⟩, ?_, ?_, ?_⟩
  · intro number one within
    exact ⟨Paginator.hasMorePages_iff one, Paginator.positions_of_counted one within word,
      Paginator.onFirstPage_iff⟩
  · intro counted
    have shows_iff {number position : Nat} (one : 1 ≤ number) (within : number ≤ last) :
        (page number).Shows position ↔
          (number - 1) * size < position ∧ position ≤ number * size ∧ position ≤ total :=
      Paginator.shows_iff one within word (counted number one within)
    refine ⟨?_, ?_, ?_⟩
    · intro position
      constructor
      · rintro ⟨one, among⟩
        obtain ⟨behind, ahead⟩ := Paginator.window_of_position positive one
        have within : (position - 1) / size < last :=
          Paginator.window_before behind (Nat.le_trans among covers)
        exact ⟨_, ⟨Nat.succ_pos _, within⟩,
          (shows_iff (Nat.succ_pos _) within).mpr ⟨behind, ahead, among⟩⟩
      · rintro ⟨number, ⟨one, within⟩, shown⟩
        obtain ⟨behind, _, among⟩ := (shows_iff one within).mp shown
        omega
    · intro position one other oneNatural oneWithin otherNatural otherWithin shownOne shownOther
      obtain ⟨oneBehind, oneAmong, _⟩ := (shows_iff oneNatural oneWithin).mp shownOne
      obtain ⟨otherBehind, otherAmong, _⟩ := (shows_iff otherNatural otherWithin).mp shownOther
      have below := Paginator.window_before oneBehind otherAmong
      have above := Paginator.window_before otherBehind oneAmong
      omega
    · intro number one before
      have left : number * size < total := by
        rw [← Nat.not_le, ← least one]
        omega
      have shorter : (number - 1) * size ≤ number * size :=
        Nat.mul_le_mul_right _ (Nat.sub_le ..)
      have filled {number : Nat} (counts : Counted number) (room : (number - 1) * size < total) :
          items number ≠ [] := by
        refine List.length_pos_iff.mp ?_
        change (items number).length = _ at counts
        omega
      have here := counted number one (Nat.le_of_lt before)
      have next := counted (number + 1) (Nat.succ_pos _) before
      obtain ⟨_, ends⟩ := Paginator.positions_of_counted one (Nat.le_of_lt before) word here
        (filled here (by omega))
      obtain ⟨starts, _⟩ := Paginator.positions_of_counted (Nat.succ_pos _) before word next
        (filled next left)
      rw [Nat.min_eq_left (Nat.le_of_lt left)] at ends
      exact ⟨_, ends, starts⟩
  · intro list number filled
    exact Paginator.positions_of_items (Paginator.ofPage list total perPage number) filled

-- Thirty-three items on pages of fifteen, and the greatest total there is on pages of one.
theorem pages_tile_thirty_three_items :
    let items (number : Nat) := List.replicate (min 15 (33 - (number - 1) * 15)) 'x'
    33 ≤ Number.greatestWord ∧
    (Paginator.ofPage (items 2) 33 15 2).lastItem? = some 30 ∧
    (Paginator.ofPage (items 3) 33 15 3).firstItem? = some 31 ∧
    (Paginator.ofPage (items 3) 33 15 3).lastItem? = some 33 ∧
    (Paginator.ofPage ['x'] Number.greatestWord 0 Number.greatestWord).lastItem? =
      some Number.greatestWord := by
  intro items
  obtain ⟨_, _, placed, _, _⟩ := pages_tile_results 33 15 (by decide) items
  obtain ⟨_, _, greatest, _, _⟩ :=
    pages_tile_results Number.greatestWord 0 (Nat.le_refl _) fun _ => ['x']
  have second := (placed 2 (by decide) (by decide)).2.1 rfl (by decide)
  have third := (placed 3 (by decide) (by decide)).2.1 rfl (by decide)
  have last := (greatest Number.greatestWord (by decide) (by decide)).2.1 (by decide) (by decide)
  exact ⟨by decide, second.2, third.1, third.2, last.2⟩

end SearchQuery
