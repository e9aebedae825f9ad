import SearchQuery.Proofs.Builder.Depth
import SearchQuery.Proofs.Builder.Outcome

namespace SearchQuery

-- Calls that concern different parts of a builder do not meet: two runs that tell the calls for
-- each part in the same order succeed together and end in the same builder.

inductive Part where
  | clauses | orders | offset | limit | script | perPage | pageName | columns | idResolver
deriving DecidableEq

namespace Call

-- The parts that a call is for; a limit that changes nothing is still a call for the limit.
def parts : Call → List Part
  | .offset _ => [.offset]
  | .limit _ => [.limit]
  | .forPage _ _ => [.offset, .limit]
  | .orderBy _ _ => [.orders]
  | .setScriptScore _ => [.script]
  | .withPerPage _ => [.perPage]
  | .withPageName _ => [.pageName]
  | .withColumns _ => [.columns]
  | .withIdResolver _ => [.idResolver]
  | .scope _ _ | .withScopes _ | .newSearch | .fail _ => []
  | _ => [.clauses]

def ofPart (part : Part) (calls : List Call) : List Call :=
  calls.filter fun call => part ∈ call.parts

theorem filterMap_ofPart {α : Type} {part : Part} {read : Call → Option α}
    (concerns : ∀ call value, read call = some value → part ∈ call.parts) (calls : List Call) :
    (ofPart part calls).filterMap read = calls.filterMap read := by
  rw [ofPart, List.filterMap_filter]
  congr 1
  funext call
  cases reads : read call with
  | none => simp
  | some value => simp [concerns call value reads]

end Call

structure Reordering (first second : List Call) : Prop where
  perm : first.Perm second
  parts : ∀ part, Call.ofPart part first = Call.ofPart part second

namespace Reordering

variable {first second : List Call}

theorem filterMap {α : Type} (reordered : Reordering first second) (part : Part)
    {read : Call → Option α}
    (concerns : ∀ call value, read call = some value → part ∈ call.parts) :
    first.filterMap read = second.filterMap read := by
  rw [← Call.filterMap_ofPart concerns first, reordered.parts part, Call.filterMap_ofPart concerns]

theorem latest {α : Type} (reordered : Reordering first second) (part : Part)
    {read : Call → Option α}
    (concerns : ∀ call value, read call = some value → part ∈ call.parts) :
    Call.latest read first = Call.latest read second := by
  rw [Call.latest, Call.latest, reordered.filterMap part concerns]

theorem after (reordered : Reordering first second) (depth : Nat) (b : Builder) :
    b.after depth first = b.after depth second := by
  unfold Builder.after
  rw [reordered.filterMap .clauses ?_, reordered.filterMap .orders ?_, reordered.latest .script ?_,
    reordered.latest .limit ?_, reordered.latest .offset ?_, reordered.latest .idResolver ?_,
    reordered.latest .perPage ?_, reordered.latest .pageName ?_, reordered.latest .columns ?_]
  all_goals
    intro call value reads
    cases call <;> first
      | (simp [Call.parts]; done)
      | cases reads

end Reordering

-- The calls of a scope in place of the call on it, at every level. A scope that is not known leaves
-- a call that fails. All calls that are left keep the scopes.
inductive Unfolds (scopes : Registry) : List Call → List Call → Prop where
  | nil : Unfolds scopes [] []
  | call {call : Call} {rest flat : List Call} (steady : call.steady)
      (others : Unfolds scopes rest flat) : Unfolds scopes (call :: rest) (call :: flat)
  | scope {name : String} {args : List Json} {scope : Scope} {rest inside flat : List Call}
      (known : scopes.lookup name = some scope) (answers : Unfolds scopes (scope args) inside)
      (others : Unfolds scopes rest flat) :
      Unfolds scopes (.scope name args :: rest) (inside ++ flat)
  | unknown {name : String} {args : List Json} {rest flat : List Call}
      (missing : scopes.lookup name = none) (others : Unfolds scopes rest flat) :
      Unfolds scopes (.scope name args :: rest) (.fail (.unknownOperation name) :: flat)

namespace Unfolds

variable {scopes : Registry} {calls flat : List Call}

theorem steady (unfolded : Unfolds scopes calls flat) : ∀ call ∈ flat, call.steady := by
  induction unfolded with
  | nil => exact nofun
  | call steady _ ih => exact List.forall_mem_cons.mpr ⟨steady, ih⟩
  | scope _ _ _ ihInside ihOthers =>
    intro call member
    exact (List.mem_append.mp member).elim (ihInside call) (ihOthers call)
  | unknown _ _ ih => exact List.forall_mem_cons.mpr ⟨rfl, ih⟩

end Unfolds

namespace Builder

theorem EndsIn.scopes_of_steady {b done : Builder} {calls : List Call} (ends : b.EndsIn calls done)
    (steady : ∀ call ∈ calls, call.steady) : done.scopes = b.scopes := by
  obtain ⟨depth, ran⟩ := ends
  obtain ⟨_, rfl⟩ := (Call.performAll_steady steady).mp ran
  rfl

end Builder

theorem Unfolds.endsIn_iff {scopes : Registry} {calls flat : List Call}
    (unfolded : Unfolds scopes calls flat) {b done : Builder} (same : b.scopes = scopes) :
    b.EndsIn calls done ↔ b.EndsIn flat done := by
  induction unfolded generalizing b done with
  | nil => rfl
  | @call call rest flat steady _ ih =>
    rw [Builder.endsIn_cons, Builder.endsIn_cons call flat]
    refine exists_congr fun next => and_congr_right fun begun => ih ?_
    exact (begun.scopes_of_steady (List.forall_mem_singleton.mpr steady)).trans same
  | @scope name args scope rest inside flat known answers _ ihInside ihOthers =>
    rw [Builder.endsIn_cons, Builder.endsIn_append]
    refine exists_congr fun next => ?_
    rw [Builder.endsIn_scope (same ▸ known), ihInside same]
    refine and_congr_right fun begun => ihOthers ?_
    exact (begun.scopes_of_steady answers.steady).trans same
  | unknown missing _ _ =>
    rw [Builder.endsIn_cons, Builder.endsIn_cons (.fail _)]
    simp [Builder.not_endsIn_unknown, Builder.not_endsIn_fail, same, missing]

theorem Unfolds.endsIn_after {b done : Builder} {calls flat : List Call}
    (unfolded : Unfolds b.scopes calls flat) :
    b.EndsIn calls done ↔ ∃ depth,
      (∀ call ∈ flat, (call.added? depth b).isSome) ∧ done = b.after depth flat := by
  rw [unfolded.endsIn_iff rfl]
  exact exists_congr fun depth => Call.performAll_steady unfolded.steady

theorem independent_calls_commute {b : Builder} {first second flat other : List Call}
    (unfolded : Unfolds b.scopes first flat) (unfoldedOther : Unfolds b.scopes second other)
    (reordered : Reordering flat other) :
    (∀ done, b.EndsIn first done ↔ b.EndsIn second done) ∧
    (∀ done same, b.EndsIn first done → b.EndsIn second same → done = same) ∧
    ∀ done, b.EndsIn first done ↔ ∃ depth,
      (∀ call ∈ flat, (call.added? depth b).isSome) ∧ done = b.after depth flat := by
  have together : ∀ done, b.EndsIn first done ↔ b.EndsIn second done := by
    intro done
    rw [unfolded.endsIn_after, unfoldedOther.endsIn_after]
    simp only [reordered.after, reordered.perm.mem_iff]
  refine ⟨together, ?_, fun done => unfolded.endsIn_after⟩
  intro done same endsFirst endsSecond
  exact endsFirst.unique ((together same).mpr endsSecond)

theorem scope_moved_past_group :
    let sort : Call := .orderByDesc "at"
    let newest : Scope := fun _ => [sort, .limit 5]
    let b := (Builder.ofTarget ⟨"posts", none⟩).withScopes [("newest", newest)]
    let group : Call := .whereNested .must
      [.scope "newest" [], .whereNull "email", .whereRawJson .should (.object [])]
    let first := [.scope "newest" [], group, .forPage 3 10, .limit 0]
    let flat := [sort, .limit 5] ++ [group, .forPage 3 10, .limit 0]
    let second := [group, .limit 5, .forPage 3 10, sort, .limit 0]
    Unfolds b.scopes first flat ∧ Unfolds b.scopes second second ∧ Reordering flat second ∧
    ∃ done, b.EndsIn first done ∧ b.EndsIn second done ∧
      done.clauses = [.group .must
        [.leaf .mustNot (.present "email"), .leaf .should (.raw (.raw (.object [])))]] ∧
      done.orders = [⟨"at", .desc⟩] ∧ done.limit = some 10 ∧ done.offset = some 20 := by
  intro sort newest b group first flat second
  have unfolded : Unfolds b.scopes first flat :=
    .scope rfl (.call rfl (.call rfl .nil)) (.call rfl (.call rfl (.call rfl .nil)))
  have unfoldedOther : Unfolds b.scopes second second :=
    .call rfl (.call rfl (.call rfl (.call rfl (.call rfl .nil))))
  have reordered : Reordering flat second := by
    refine ⟨?_, fun part => by cases part <;> rfl⟩
    have later : ([group, .limit 5, .forPage 3 10] ++ sort :: [.limit 0]).Perm
        (sort :: [group, .limit 5, .forPage 3 10, .limit 0]) := List.perm_middle
    exact .trans (.cons _ (.swap ..)) later.symm
  obtain ⟨together, _, _⟩ := independent_calls_commute unfolded unfoldedOther reordered
  have ends : b.EndsIn first _ := ⟨2, rfl⟩
  exact ⟨unfolded, unfoldedOther, reordered, _, ends, (together _).mp ends, rfl, rfl, rfl, rfl⟩

end SearchQuery
