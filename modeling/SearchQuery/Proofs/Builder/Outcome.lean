import SearchQuery.Proofs.Builder.Lockstep

namespace SearchQuery

-- What a run of calls makes of a builder, field by field: what a call adds is known before the
-- calls around it are run, and a field that is set keeps what the last call set.

-- Calls go by the scopes and the clauses of their builder. How it is paged, sorted or scored
-- decides neither whether they succeed nor which clauses they leave behind.
def Builder.Alike (b c : Builder) : Prop := b.scopes = c.scopes ∧ b.clauses = c.clauses

theorem lockstep_alike : Lockstep Builder.Alike fun _ => True where
  inside _ _ := trivial
  scopes alike := alike.1
  answers _ _ _ _ _ := trivial
  clause alike _ _ := ⟨alike.1, congrArg (· ++ _) alike.2⟩
  setting alike _ sets := by
    rw [Builder.Alike, Call.scopes_of_setting sets, Call.scopes_of_setting sets,
      Call.clauses_of_setting sets, Call.clauses_of_setting sets]
    exact alike
  newSearch alike := ⟨alike.1, rfl⟩
  absorb alike connector grouped := by
    refine ⟨?_, ?_⟩
    · rw [Builder.scopes_absorb, Builder.scopes_absorb, alike.1]
    · rw [Builder.clauses_absorb, Builder.clauses_absorb, alike.2, grouped.2]
  withScopes alike _ := ⟨rfl, alike.2⟩

def Clause.grouped (connector : Connector) (members : List Clause) : Option Clause :=
  if members.isEmpty then none else some (.group connector members)

namespace Call

def added? (depth : Nat) (b : Builder) : Call → Option (Option Clause)
  | .whereNested connector calls =>
    (performEach (Builder.applied depth) calls b.newSearch).map fun group =>
      Clause.grouped connector group.clauses
  | .tryWhereNested connector calls =>
    match performAll (Builder.applied depth) calls b.newSearch with
    | some (.ok group) => some (Clause.grouped connector group.clauses)
    | _ => none
  | call =>
    match call.clause? with
    | some (.ok clause) => some (some clause)
    | some (.error _) => none
    | none => if call.setting?.isSome then some none else none

-- The sort field that a call appends, and the value that a call sets of each other field.

def order? : Call → Option SortField
  | .orderBy field direction => some ⟨field, .ofText direction⟩
  | _ => none

def offset? : Call → Option Nat
  | .offset value => some value.toNat
  | .forPage page perPage => some (saturate (saturate (page - 1) * perPage)).toNat
  | _ => none

def limit? : Call → Option Nat
  | .limit value => if 0 < value then some value.toNat else none
  | .forPage _ perPage => if 0 < perPage then some perPage.toNat else none
  | _ => none

def script? : Call → Option ScoreScript
  | .setScriptScore script => some script
  | _ => none

def perPage? : Call → Option Int
  | .withPerPage perPage => some perPage
  | _ => none

def pageName? : Call → Option String
  | .withPageName pageName => some pageName
  | _ => none

def columns? : Call → Option (List String)
  | .withColumns columns => some columns
  | _ => none

def idResolver? : Call → Option (Hit → String)
  | .withIdResolver resolver => some resolver
  | _ => none

def latest {α : Type} (read : Call → Option α) (calls : List Call) : Option α :=
  (calls.filterMap read).getLast?

theorem latest_cons {α : Type} (read : Call → Option α) (call : Call) (rest : List Call) :
    latest read (call :: rest) = (latest read rest).or (read call) := by
  unfold latest
  cases sets : read call with
  | none => simp [sets]
  | some value =>
    cases later : (rest.filterMap read).getLast? <;> simp [sets, List.getLast?_cons, later]

theorem latest_single {α : Type} (read : Call → Option α) (call : Call) :
    latest read [call] = read call := by
  rw [latest_cons]
  exact Option.none_or

variable {depth : Nat} {b c next done : Builder} {call : Call}

theorem added?_of_clause {made : Except Error Clause} (makes : call.clause? = some made) :
    call.added? depth b = made.toOption.map some := by
  cases call <;> simp only [clause?, Option.some.injEq, reduceCtorEq] at makes <;>
    simp only [added?, clause?, makes] <;> cases made <;> rfl

theorem added?_of_setting {change : Builder → Builder} (sets : call.setting? = some change) :
    call.added? depth b = some none := by
  cases call <;> simp only [setting?, reduceCtorEq] at sets <;> rfl

-- Of its builder a call sees the scopes only, and more depth adds nothing else.
theorem added?_follows (scopes : b.scopes = c.scopes) {shallow deep : Nat}
    (deeper : shallow ≤ deep) {clause : Option Clause}
    (adds : call.added? shallow b = some clause) : call.added? deep c = some clause := by
  have fresh : Builder.Alike b.newSearch c.newSearch := ⟨scopes, rfl⟩
  have each : ∀ call : Call, FollowsOn Builder.Alike (call.perform (Builder.applied shallow))
      (call.perform (Builder.applied deep)) :=
    fun _ => Builder.call_follows lockstep_alike deeper trivial
  cases call with
  | whereNested connector calls =>
    rw [added?] at adds ⊢
    obtain ⟨group, ran, grouped⟩ := Option.map_eq_some_iff.mp adds
    obtain ⟨other, ranOther, same⟩ := performEach_follows (fun call _ => each call) fresh ran
    rw [ranOther, Option.map_some, ← same.2, grouped]
  | tryWhereNested connector calls =>
    have groups := performAll_follows (fun call (_ : call ∈ calls) => each call) _ _ fresh
    rw [added?] at adds ⊢
    generalize performAll (Builder.applied shallow) calls b.newSearch = one at groups adds
    generalize performAll (Builder.applied deep) calls c.newSearch = two at groups
    cases groups with
    | lost => cases adds
    | error => cases adds
    | ok same => simpa only [same.2] using adds
  | _ => exact adds

theorem added?_congr (scopes : b.scopes = c.scopes) (call : Call) :
    call.added? depth b = call.added? depth c :=
  Option.ext fun _ => ⟨added?_follows scopes (Nat.le_refl depth),
    added?_follows scopes.symm (Nat.le_refl depth)⟩

end Call

namespace Builder

variable {depth : Nat} {b : Builder} {call : Call}

def after (depth : Nat) (b : Builder) (calls : List Call) : Builder :=
  { b with
    clauses := b.clauses ++ calls.filterMap fun call => (call.added? depth b).join
    orders := b.orders ++ calls.filterMap Call.order?
    offset := (Call.latest Call.offset? calls).or b.offset
    limit := (Call.latest Call.limit? calls).or b.limit
    script := (Call.latest Call.script? calls).or b.script
    idResolver := (Call.latest Call.idResolver? calls).or b.idResolver
    perPage := (Call.latest Call.perPage? calls).getD b.perPage
    pageName := (Call.latest Call.pageName? calls).getD b.pageName
    columns := (Call.latest Call.columns? calls).getD b.columns }

theorem added?_after (calls : List Call) (call : Call) :
    call.added? depth (b.after depth calls) = call.added? depth b := by
  have scopes : (b.after depth calls).scopes = b.scopes := rfl
  exact Call.added?_congr scopes call

theorem after_nil (depth : Nat) (b : Builder) : b.after depth [] = b := by
  simp [after, Call.latest]

theorem after_cons (depth : Nat) (b : Builder) (call : Call) (rest : List Call) :
    b.after depth (call :: rest) = (b.after depth [call]).after depth rest := by
  have collects : ∀ {α : Type} (read : Call → Option α), (call :: rest).filterMap read =
      [call].filterMap read ++ rest.filterMap read := by
    intro α read
    rw [← List.filterMap_append, List.singleton_append]
  rw [after, after]
  simp only [added?_after, collects, Call.latest_cons _ call rest]
  simp [after, Call.latest_single, Option.or_assoc]

theorem after_of_adding (quiet : call.setting? = none) :
    b.after depth [call] =
      { b with clauses := b.clauses ++ (call.added? depth b).join.toList } := by
  have alone : ∀ {α : Type} (read : Call → Option α), [call].filterMap read = (read call).toList :=
    fun _ => rfl
  rw [after, alone, alone]
  cases call <;> simp only [Call.setting?, reduceCtorEq] at quiet <;>
    simp [Call.latest_single, Call.order?, Call.offset?, Call.limit?, Call.script?,
      Call.perPage?, Call.pageName?, Call.columns?, Call.idResolver?]

theorem take_eq (b : Builder) (value : Int) :
    b.take value =
      { b with limit := (if 0 < value then some value.toNat else none).or b.limit } := by
  unfold take
  split <;> rfl

theorem after_of_setting {change : Builder → Builder} (sets : call.setting? = some change) :
    b.after depth [call] = change b := by
  cases call <;> simp only [Call.setting?, Option.some.injEq, reduceCtorEq] at sets <;>
    subst sets <;>
    simp [after, Call.added?, Call.clause?, Call.setting?, Call.latest_single, Call.order?,
      Call.offset?, Call.limit?, Call.script?, Call.perPage?, Call.pageName?, Call.columns?,
      Call.idResolver?, orderBy, setScriptScore, skip, take_eq, forPage]

theorem absorb_eq (b group : Builder) (connector : Connector) :
    b.absorb connector group =
      { b with clauses := b.clauses ++ (Clause.grouped connector group.clauses).toList } := by
  unfold absorb Clause.grouped
  split
  · simp
  · rfl

end Builder

namespace Call

def steady : Call → Bool
  | .scope _ _ | .withScopes _ | .newSearch => false
  | _ => true

variable {depth : Nat} {b next done : Builder}

theorem perform_steady {call : Call} (steady : call.steady) :
    call.perform (Builder.applied depth) b = some (.ok next) ↔
      (call.added? depth b).isSome ∧ next = b.after depth [call] := by
  induction call with
  | clause call made makes =>
    rw [perform_of_clause makes, Builder.after_of_adding (setting?_of_clause makes),
      added?_of_clause makes]
    cases made with
    | error error => simp [Except.map, Except.toOption]
    | ok clause => simp [Except.map, Except.toOption, Builder.addClause, eq_comm]
  | setting call change sets =>
    rw [perform_of_setting sets, added?_of_setting sets, Builder.after_of_setting sets]
    simp [eq_comm]
  | whereNested connector calls =>
    rw [Builder.after_of_adding rfl, perform, added?]
    cases performEach (Builder.applied depth) calls b.newSearch with
    | none => simp
    | some group => simp [Builder.absorb_eq, eq_comm]
  | tryWhereNested connector calls =>
    rw [Builder.after_of_adding rfl, perform, added?]
    rcases performAll (Builder.applied depth) calls b.newSearch with _ | _ | group
    · simp
    · simp
    · simp [Builder.absorb_eq, eq_comm]
  | fail error => simp [perform, added?, clause?, setting?]
  | scope | withScopes | newSearch => cases steady

theorem performAll_steady {calls : List Call} (steady : ∀ call ∈ calls, call.steady) :
    performAll (Builder.applied depth) calls b = some (.ok done) ↔
      (∀ call ∈ calls, (call.added? depth b).isSome) ∧ done = b.after depth calls := by
  induction calls generalizing b with
  | nil =>
    rw [performAll, Builder.after_nil]
    simpa using eq_comm
  | cons call rest ih =>
    have head := steady call (List.mem_cons_self ..)
    have others := fun other member => steady other (List.mem_cons_of_mem _ member)
    have ihAfter := ih (b := b.after depth [call]) others
    simp only [Builder.added?_after] at ihAfter
    rw [performAll_cons_eq_ok_iff, Builder.after_cons, List.forall_mem_cons]
    constructor
    · rintro ⟨next, performed, ran⟩
      obtain ⟨adding, rfl⟩ := (perform_steady head).mp performed
      obtain ⟨addingOthers, ends⟩ := ihAfter.mp ran
      exact ⟨⟨adding, addingOthers⟩, ends⟩
    · rintro ⟨⟨adding, addingOthers⟩, ends⟩
      exact ⟨b.after depth [call], (perform_steady head).mpr ⟨adding, rfl⟩,
        ihAfter.mpr ⟨addingOthers, ends⟩⟩

end Call

end SearchQuery
