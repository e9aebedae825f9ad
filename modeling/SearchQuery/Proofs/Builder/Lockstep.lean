import SearchQuery.Proofs.Builder.Calls

namespace SearchQuery

-- The same calls on two builders side by side, where scopes of the second may be followed deeper.
-- What holds between the builders and outlasts every change to both holds where the runs end.

inductive Follows (Side : Builder → Builder → Prop) :
    Option (Except Error Builder) → Option (Except Error Builder) → Prop where
  | lost (answer : Option (Except Error Builder)) : Follows Side none answer
  | error (error : Error) : Follows Side (some (.error error)) (some (.error error))
  | ok {b c : Builder} (side : Side b c) : Follows Side (some (.ok b)) (some (.ok c))

-- Single changes by allowed calls keep two builders side by side. The calls that an allowed call is
-- made of are allowed, and so are those of the scopes.
structure Lockstep (Side : Builder → Builder → Prop) (Allowed : Call → Prop) : Prop where
  inside : ∀ {call inner : Call}, Allowed call → inner.Within call → Allowed inner
  scopes : ∀ {b c : Builder}, Side b c → b.scopes = c.scopes
  answers : ∀ {b c : Builder} {name : String} {scope : Scope}, Side b c →
    b.scopes.lookup name = some scope → ∀ args, ∀ call ∈ scope args, Allowed call
  clause : ∀ {b c : Builder} {call : Call} {clause : Clause}, Side b c → Allowed call →
    call.clause? = some (.ok clause) → Side (b.addClause clause) (c.addClause clause)
  setting : ∀ {b c : Builder} {call : Call} {change : Builder → Builder}, Side b c →
    Allowed call → call.setting? = some change → Side (change b) (change c)
  newSearch : ∀ {b c : Builder}, Side b c → Side b.newSearch c.newSearch
  absorb : ∀ {b c group other : Builder}, Side b c → ∀ connector, Side group other →
    Side (b.absorb connector group) (c.absorb connector other)
  withScopes : ∀ {b c : Builder} {scopes : List (String × Scope)}, Side b c →
    Allowed (.withScopes scopes) →
    Side (b.withScopes (.ofList scopes)) (c.withScopes (.ofList scopes))

section

variable {Side : Builder → Builder → Prop} {Allowed : Call → Prop} {near far : Applied}

def FollowsOn (Side : Builder → Builder → Prop)
    (near far : Builder → Option (Except Error Builder)) : Prop :=
  ∀ b c, Side b c → Follows Side (near b) (far c)

namespace Call

theorem performAll_follows {calls : List Call}
    (each : ∀ call ∈ calls, FollowsOn Side (call.perform near) (call.perform far)) :
    FollowsOn Side (performAll near calls) (performAll far calls) := by
  intro b c side
  induction calls generalizing b c with
  | nil => exact .ok side
  | cons call rest ih =>
    have others := fun other member => each other (List.mem_cons_of_mem _ member)
    have head := each call (List.mem_cons_self ..) b c side
    rw [performAll, performAll]
    generalize call.perform near b = one at head
    generalize call.perform far c = two at head
    cases head with
    | lost => exact .lost _
    | error error => exact .error error
    | ok next => exact ih others _ _ next

theorem performEach_follows {calls : List Call}
    (each : ∀ call ∈ calls, FollowsOn Side (call.perform near) (call.perform far))
    {b c group : Builder} (side : Side b c) (ran : performEach near calls b = some group) :
    ∃ other, performEach far calls c = some other ∧ Side group other := by
  induction calls generalizing b c with
  | nil =>
    cases ran
    exact ⟨c, rfl, side⟩
  | cons call rest ih =>
    have others := fun other member => each other (List.mem_cons_of_mem _ member)
    have head := each call (List.mem_cons_self ..) b c side
    rw [performEach] at ran ⊢
    generalize call.perform near b = one at head ran
    generalize call.perform far c = two at head
    cases head with
    | lost => cases ran
    | error => exact ih others side ran
    | ok next => exact ih others next ran

theorem perform_follows (kept : Lockstep Side Allowed)
    (scopesFollow : ∀ name args, FollowsOn Side (near name args) (far name args)) (call : Call)
    (allowed : Allowed call) : FollowsOn Side (call.perform near) (call.perform far) := by
  intro b c side
  induction call generalizing b c with
  | clause call made makes =>
    rw [perform_of_clause makes, perform_of_clause makes]
    cases made with
    | error error => exact .error error
    | ok clause => exact .ok (kept.clause side allowed makes)
  | setting call change sets =>
    rw [perform_of_setting sets, perform_of_setting sets]
    exact .ok (kept.setting side allowed sets)
  | whereNested connector calls ih =>
    have each := fun call member => ih call member (kept.inside allowed (.group member))
    rw [perform, perform]
    cases ran : performEach near calls b.newSearch with
    | none => exact .lost _
    | some group =>
      obtain ⟨other, ranOther, grouped⟩ := performEach_follows each (kept.newSearch side) ran
      rw [ranOther]
      exact .ok (kept.absorb side connector grouped)
  | tryWhereNested connector calls ih =>
    have each := fun call member => ih call member (kept.inside allowed (.tryGroup member))
    have groups := performAll_follows each _ _ (kept.newSearch side)
    rw [perform, perform]
    generalize performAll near calls b.newSearch = one at groups
    generalize performAll far calls c.newSearch = two at groups
    cases groups with
    | lost => exact .lost _
    | error error => exact .error error
    | ok grouped => exact .ok (kept.absorb side connector grouped)
  | scope name args => exact scopesFollow name args b c side
  | withScopes scopes => exact .ok (kept.withScopes side allowed)
  | newSearch => exact .ok (kept.newSearch side)
  | fail error => exact .error error

end Call

theorem Builder.applied_follows (kept : Lockstep Side Allowed) {shallow deep : Nat}
    (deeper : shallow ≤ deep) (name : String) (args : List Json) :
    FollowsOn Side (applied shallow name args) (applied deep name args) := by
  intro b c side
  -- A scope may call scopes of its own, at one level less on both sides.
  induction shallow generalizing deep name args b c with
  | zero => exact .lost _
  | succ shallow ih =>
    obtain ⟨deep, rfl⟩ := Nat.exists_eq_add_of_le' (Nat.le_trans (Nat.succ_pos shallow) deeper)
    rw [applied, applied, Registry.apply, Registry.apply, ← kept.scopes side]
    cases known : b.scopes.lookup name with
    | none => exact .error _
    | some scope =>
      refine Call.performAll_follows (fun call answered => ?_) b c side
      exact Call.perform_follows kept (ih (Nat.le_of_succ_le_succ deeper)) call
        (kept.answers side known args call answered)

theorem Builder.call_follows (kept : Lockstep Side Allowed) {shallow deep : Nat}
    (deeper : shallow ≤ deep) {call : Call} (allowed : Allowed call) :
    FollowsOn Side (call.perform (applied shallow)) (call.perform (applied deep)) :=
  Call.perform_follows kept (applied_follows kept deeper) call allowed

theorem Builder.run_follows (kept : Lockstep Side Allowed) {shallow deep : Nat}
    (deeper : shallow ≤ deep) {calls : List Call} (allowed : ∀ call ∈ calls, Allowed call)
    {b c : Builder} (side : Side b c) : Follows Side (b.run shallow calls) (c.run deep calls) := by
  have each := fun call member => call_follows kept deeper (allowed call member)
  exact Call.performAll_follows each b c side

end

end SearchQuery
