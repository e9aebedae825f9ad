import SearchQuery.Proofs.Builder.Depth
import SearchQuery.Proofs.Execution.Requests

namespace SearchQuery

theorem saturate_le (n : Int) : saturate n ≤ Number.greatestSigned := by
  have bounds : Number.leastSigned ≤ Number.greatestSigned := by decide
  unfold saturate
  omega

namespace Call

inductive Throughout (holds : Call → Prop) : Call → Prop where
  | intro {call : Call} (own : holds call)
      (inside : ∀ inner, Within inner call → Throughout holds inner) : Throughout holds call

variable {holds : Call → Prop} {call inner : Call}

theorem Throughout.own (throughout : call.Throughout holds) : holds call := by
  cases throughout with
  | intro own => exact own

theorem Throughout.inside (throughout : call.Throughout holds) (within : inner.Within call) :
    inner.Throughout holds := by
  cases throughout with
  | intro _ inside => exact inside inner within

def SignedWindow : Call → Prop
  | .offset value | .limit value => Signed value
  | .forPage page perPage => Signed page ∧ Signed perPage
  | _ => True

def setsWindow : Call → Bool
  | .offset _ | .limit _ | .forPage _ _ => true
  | _ => false

theorem isSome_setting?_of_setsWindow (sets : call.setsWindow = true) :
    call.setting?.isSome = true := by
  cases call <;> first
    | rfl
    | cases sets

end Call

def Registry.Throughout (holds : Call → Prop) (registry : Registry) : Prop :=
  ∀ name scope, registry.lookup name = some scope → ∀ args, ∀ call ∈ scope args,
    call.Throughout holds

namespace Builder

structure WindowSigned (b : Builder) : Prop where
  offset : ∀ start, b.offset = some start → (start : Int) ≤ Number.greatestSigned
  limit : ∀ size, b.limit = some size → 1 ≤ size ∧ (size : Int) ≤ Number.greatestSigned

namespace WindowSigned

variable {b : Builder}

theorem of_none (offset : b.offset = none) (limit : b.limit = none) : b.WindowSigned where
  offset start set := by rw [offset] at set; cases set
  limit size set := by rw [limit] at set; cases set

theorem congr {c : Builder} (signed : b.WindowSigned) (offset : c.offset = b.offset)
    (limit : c.limit = b.limit) : c.WindowSigned where
  offset start set := signed.offset start (offset ▸ set)
  limit size set := signed.limit size (limit ▸ set)

theorem skip (signed : b.WindowSigned) {value : Int} (word : value ≤ Number.greatestSigned) :
    (b.skip value).WindowSigned where
  offset start set := by
    have bound : 0 ≤ Number.greatestSigned := by decide
    cases set
    omega
  limit := signed.limit

theorem take (signed : b.WindowSigned) {value : Int} (word : value ≤ Number.greatestSigned) :
    (b.take value).WindowSigned := by
  unfold Builder.take
  split
  · refine ⟨signed.offset, ?_⟩
    intro size set
    cases set
    omega
  · exact signed

theorem setting (signed : b.WindowSigned) {call : Call} {change : Builder → Builder}
    (sets : call.setting? = some change) (words : call.SignedWindow) :
    (change b).WindowSigned := by
  cases call with
  | offset value =>
    cases sets
    exact signed.skip words.2
  | limit value =>
    cases sets
    exact signed.take words.2
  | forPage page perPage =>
    cases sets
    exact (signed.skip (saturate_le _)).take words.2.2
  | orderBy | setScriptScore | withPerPage | withPageName | withColumns | withIdResolver =>
    cases sets
    exact signed.congr rfl rfl
  | _ => cases sets

theorem newSearch (b : Builder) : b.newSearch.WindowSigned := of_none rfl rfl

theorem absorb (signed : b.WindowSigned) (connector : Connector) (group : Builder) :
    (b.absorb connector group).WindowSigned := by
  unfold Builder.absorb
  split
  · exact signed
  · exact signed.congr rfl rfl

end WindowSigned

theorem lockstep_windowSigned :
    Lockstep (fun b c => b = c ∧ b.WindowSigned ∧ b.scopes.Throughout Call.SignedWindow)
      (Call.Throughout Call.SignedWindow) where
  inside throughout within := throughout.inside within
  scopes side := side.1 ▸ rfl
  answers side known := side.2.2 _ _ known
  clause := by
    rintro b _ call clause ⟨rfl, signed, scopes⟩ _ _
    exact ⟨rfl, signed.congr rfl rfl, scopes⟩
  setting := by
    rintro b _ call change ⟨rfl, signed, scopes⟩ words sets
    exact ⟨rfl, signed.setting sets words.own, (Call.scopes_of_setting sets).symm ▸ scopes⟩
  newSearch := by
    rintro b _ ⟨rfl, _, scopes⟩
    exact ⟨rfl, .newSearch b, scopes⟩
  absorb := by
    rintro b _ group _ ⟨rfl, signed, scopes⟩ connector ⟨rfl, _⟩
    exact ⟨rfl, signed.absorb connector group, (scopes_absorb ..).symm ▸ scopes⟩
  withScopes := by
    rintro b _ scopes ⟨rfl, signed, _⟩ words
    refine ⟨rfl, signed.congr rfl rfl, ?_⟩
    intro name scope known args call answered
    exact words.inside (.scope (Registry.mem_of_lookup_ofList known) answered)

variable {b done : Builder} {calls : List Call}

theorem EndsIn.windowSigned (ends : b.EndsIn calls done) (signed : b.WindowSigned)
    (scopes : b.scopes.Throughout Call.SignedWindow)
    (words : ∀ call ∈ calls, call.Throughout Call.SignedWindow) : done.WindowSigned := by
  obtain ⟨depth, ran⟩ := ends
  have kept := run_follows lockstep_windowSigned (Nat.le_refl depth) words ⟨rfl, signed, scopes⟩
  rw [ran] at kept
  cases kept with
  | ok side => exact side.2.1

theorem run_of_settings (sets : ∀ call ∈ calls, call.setting?.isSome = true) :
    ∃ done, (∀ depth, b.run depth calls = some (.ok done)) ∧
      (b.WindowSigned → (∀ call ∈ calls, call.SignedWindow) → done.WindowSigned) := by
  induction calls generalizing b with
  | nil => exact ⟨b, fun _ => rfl, fun signed _ => signed⟩
  | cons call rest ih =>
    obtain ⟨head, others⟩ := List.forall_mem_cons.mp sets
    obtain ⟨change, found⟩ := Option.isSome_iff_exists.mp head
    obtain ⟨done, ran, keeps⟩ := ih (b := change b) others
    refine ⟨done, ?_, ?_⟩
    · intro depth
      rw [run, Call.performAll, Call.perform_of_setting found]
      exact ran depth
    · intro signed words
      obtain ⟨word, rest⟩ := List.forall_mem_cons.mp words
      exact keeps (signed.setting found word) rest

end Builder

-- A page sets the exact window that it names, so pages follow one another as long as words reach,
-- and no window leaves the signed words, however builders are put together.
theorem window_calls_exact (b : Builder) :
    (∀ page perPage : Int, ∃ start : Nat,
      b.forPage page perPage = { b with
        offset := some start
        limit := if 0 < perPage then some perPage.toNat else b.limit } ∧
      (start : Int) = max 0 (min ((page - 1) * perPage) Number.greatestSigned)) ∧
    (∀ page perPage : Int, 1 ≤ page → 0 < perPage → page * perPage ≤ Number.greatestSigned →
      ∃ start size, (b.forPage page perPage).offset = some start ∧
        (b.forPage page perPage).limit = some size ∧ (size : Int) = perPage ∧
        (b.forPage (page + 1) perPage).offset = some (start + size)) ∧
    (∀ calls : List Call, (∀ call ∈ calls, call.setsWindow = true ∧ call.SignedWindow) →
      ∃ done, (∀ depth, b.run depth calls = some (.ok done)) ∧
        (b.WindowSigned → done.WindowSigned)) ∧
    (∀ (start : Builder) (calls : List Call), start.offset = none → start.limit = none →
      start.scopes.Throughout Call.SignedWindow →
      (∀ call ∈ calls, call.Throughout Call.SignedWindow) → start.EndsIn calls b →
        b.WindowSigned) ∧
    ∀ source,
      (b.toRequest source).toJson.get? "from" = (b.offset.filter (0 < ·)).map .nat ∧
      (b.toRequest source).toJson.get? "size" = b.limit.map .nat := by
  refine ⟨?_, ?_, ?_, ?_, ?_⟩
  · intro page perPage
    exact ⟨_, b.forPage_eq page perPage, toNat_saturate_mul (page - 1) perPage⟩
  · intro page perPage first positive fits
    have before := toNat_saturate_mul (page - 1) perPage
    have after := toNat_saturate_mul (page + 1 - 1) perPage
    have start : 0 ≤ (page - 1) * perPage := Int.mul_nonneg (by omega) (by omega)
    have next : page * perPage = (page - 1) * perPage + perPage := by
      rw [Int.sub_mul, Int.one_mul, Int.sub_add_cancel]
    rw [Int.add_sub_cancel] at after
    refine ⟨_, perPage.toNat, by rw [b.forPage_eq], ?_, by omega, ?_⟩
    · rw [b.forPage_eq]
      exact if_pos positive
    · rw [b.forPage_eq, Option.some_inj, Int.add_sub_cancel]
      omega
  · intro calls windows
    have sets : ∀ call ∈ calls, call.setting?.isSome = true := fun call member =>
      Call.isSome_setting?_of_setsWindow (windows call member).1
    obtain ⟨done, ran, keeps⟩ := Builder.run_of_settings (b := b) sets
    exact ⟨done, ran, fun signed => keeps signed fun call member => (windows call member).2⟩
  · intro start calls offset limit scopes words ends
    exact ends.windowSigned (.of_none offset limit) scopes words
  · intro source
    exact ⟨(b.toRequest source).get?_from, (b.toRequest source).get?_size⟩

-- The least page of all lies before the first, and with a size below zero beyond every word.
theorem window_of_least_page :
    let b := Builder.ofTarget ⟨"posts", none⟩
    let calls : List Call := [.limit 20, .forPage Number.leastSigned (-1), .limit 0]
    (∀ call ∈ calls, call.setsWindow = true ∧ call.SignedWindow) ∧ b.WindowSigned ∧
    (∃ done, (∀ depth, b.run depth calls = some (.ok done)) ∧ done.WindowSigned) ∧
    (∃ start, (b.forPage Number.leastSigned (-1)).offset = some start ∧
      (start : Int) = Number.greatestSigned) ∧
    ∃ start size : Nat, (b.forPage 2 15).offset = some start ∧ (size : Int) = 15 ∧
      (b.forPage 3 15).offset = some (start + size) := by
  intro b calls
  obtain ⟨exact, follow, runs, reached, _⟩ := window_calls_exact b
  have windows : ∀ call ∈ calls, call.setsWindow = true ∧ call.SignedWindow := by
    simp only [calls, List.forall_mem_cons]
    exact ⟨⟨rfl, (by decide : Signed 20)⟩,
      ⟨rfl, (by decide : Signed Number.leastSigned), (by decide : Signed (-1))⟩,
      ⟨rfl, (by decide : Signed 0)⟩, nofun⟩
  have fresh : b.WindowSigned := reached b [] rfl rfl nofun nofun ⟨0, rfl⟩
  obtain ⟨done, ran, keeps⟩ := runs calls windows
  obtain ⟨start, page, placed⟩ := exact Number.leastSigned (-1)
  obtain ⟨second, size, here, _, fifteen, third⟩ :=
    follow 2 15 (by decide) (by decide) (by decide)
  refine ⟨windows, fresh, ⟨done, ran, keeps fresh⟩, ⟨start, ?_, ?_⟩,
    ⟨second, size, here, fifteen, third⟩⟩
  · rw [page]
  · rw [placed]
    decide

end SearchQuery
