import SearchQuery.Proofs.Builder.Depth
import SearchQuery.Proofs.Builder.Steps

namespace SearchQuery

namespace Builder

-- A run of calls beside the steps that it comes to: it succeeds and no step fails, or it has the
-- failure of the first step that does.
inductive Settles (b : Builder) (calls : List Call) : List Step → Option Registry → Prop where
  | passed {steps : List Step} {done : Builder} (ends : b.EndsIn calls done)
      (passes : ∀ step ∈ steps, step.Passes) : Settles b calls steps (some done.scopes)
  | failed {before later : List Step} {step : Step} {error : Error} {last : Option Registry}
      (answers : b.Answers calls (.error error)) (passes : ∀ earlier ∈ before, earlier.Passes)
      (fails : step.Fails error) : Settles b calls (before ++ step :: later) last

section

variable {b : Builder} {call : Call} {calls rest : List Call} {steps later : List Step}
variable {middle : Registry} {left last : Option Registry}

theorem Settles.cons (first : b.Settles [call] steps (some middle))
    (others : ∀ next : Builder, next.scopes = middle → next.Settles rest later last) :
    b.Settles (call :: rest) (steps ++ later) last := by
  cases first with
  | passed ends passes =>
    rename_i next
    cases others next rfl with
    | passed endsRest passesRest =>
      refine .passed ((endsIn_cons call rest).mpr ⟨next, ends, endsRest⟩) ?_
      exact List.forall_mem_append.mpr ⟨passes, passesRest⟩
    | failed answers passesRest fails =>
      rw [← List.append_assoc]
      refine .failed (ends.answers_append answers) ?_ fails
      exact List.forall_mem_append.mpr ⟨passes, passesRest⟩
  | failed answers passes fails =>
    rw [List.append_assoc, List.cons_append]
    exact .failed (answers.append_of_error rest) passes fails

theorem Settles.cons_of_halt (first : b.Settles [call] steps none) (rest : List Call) :
    b.Settles (call :: rest) steps none := by
  cases first with
  | failed answers passes fails => exact .failed (answers.append_of_error rest) passes fails

theorem Settles.answers (settles : b.Settles calls steps last) :
    ∃ answer, b.Answers calls answer := by
  cases settles with
  | passed ends => exact ⟨_, ends⟩
  | failed answers => exact ⟨_, answers⟩

theorem Settles.under {inner : Builder} {step : Step} (passes : step.Passes)
    (inside : inner.Settles calls steps left)
    (ends : ∀ done, inner.EndsIn calls done → left = some done.scopes →
      ∃ next, b.EndsIn [call] next ∧ last = some next.scopes)
    (fails : ∀ error, inner.Answers calls (.error error) → b.Answers [call] (.error error)) :
    b.Settles [call] (step :: steps) last := by
  cases inside with
  | passed endsInside passesInside =>
    obtain ⟨next, endsCall, rfl⟩ := ends _ endsInside rfl
    exact .passed endsCall (List.forall_mem_cons.mpr ⟨passes, passesInside⟩)
  | failed answers passesInside stepFails =>
    rw [← List.cons_append]
    exact .failed (fails _ answers) (List.forall_mem_cons.mpr ⟨passes, passesInside⟩) stepFails

theorem answers_of_fails {error : Error} (fails : Step.Fails ⟨b.scopes, call⟩ error) :
    b.Answers [call] (.error error) := by
  cases fails with
  | value operates faulty =>
    obtain ⟨field, connector, makes⟩ := Call.clause?_of_operand operates
    have performed : call.perform (applied 0) b = _ := Call.perform_of_clause makes
    rw [Clause.normalize_of_fault faulty field connector] at performed
    exact (answers_single call).mpr ⟨0, performed⟩
  | check => exact answers_fail error
  | unknown args missing => exact answers_unknown args missing

theorem Settles.stopped {error : Error} (fails : Step.Fails ⟨b.scopes, call⟩ error) :
    b.Settles [call] [⟨b.scopes, call⟩] last := by
  rw [← List.nil_append [Step.mk _ _]]
  exact .failed (answers_of_fails fails) (List.forall_mem_nil _) fails

theorem Settles.single {next : Builder} (ends : b.EndsIn [call] next)
    (passes : Step.Passes ⟨b.scopes, call⟩) :
    b.Settles [call] [⟨b.scopes, call⟩] (some next.scopes) :=
  .passed ends (List.forall_mem_singleton.mpr passes)

theorem plain_answers (plain : call.plain) :
    (∃ error, Step.Fails ⟨b.scopes, call⟩ error) ∨
    (Step.Passes ⟨b.scopes, call⟩ ∧ ∃ next, b.EndsIn [call] next ∧ next.scopes = b.scopes) := by
  induction call with
  | clause call made makes =>
    cases operates : call.operand? with
    | none =>
      obtain ⟨clause, rfl⟩ := Call.clause?_of_no_operand operates makes
      have ends : b.EndsIn [call] (b.addClause clause) :=
        (endsIn_single call).mpr ⟨0, Call.perform_of_clause makes⟩
      refine .inr ⟨Step.passes_of_quiet operates ?_ ?_, _, ends, rfl⟩
      · rintro error rfl
        cases makes
      · rintro name args rfl
        cases makes
    | some operand =>
      obtain ⟨token, value⟩ := operand
      cases judged : valueFault? token value with
      | some fault => exact .inl ⟨_, .value operates judged⟩
      | none =>
        obtain ⟨field, connector, makes⟩ := Call.clause?_of_operand operates
        obtain ⟨query, made⟩ := Clause.normalize_of_faultless judged field connector
        rw [made] at makes
        have ends : b.EndsIn [call] (b.addClause _) :=
          (endsIn_single call).mpr ⟨0, Call.perform_of_clause makes⟩
        exact .inr ⟨Step.passes_of_faultless operates judged, _, ends, rfl⟩
  | setting call change sets =>
    have ends : b.EndsIn [call] (change b) :=
      (endsIn_single call).mpr ⟨0, Call.perform_of_setting sets⟩
    refine .inr ⟨Step.passes_of_quiet (Call.operand?_of_setting sets) ?_ ?_, _, ends,
      Call.scopes_of_setting sets⟩
    · rintro error rfl
      cases sets
    · rintro name args rfl
      cases sets
  | newSearch =>
    have ends : b.EndsIn [.newSearch] b.newSearch := (endsIn_single _).mpr ⟨0, rfl⟩
    exact .inr ⟨Step.passes_of_quiet rfl nofun nofun, _, ends, rfl⟩
  | fail error => exact .inl ⟨error, .check b.scopes error⟩
  | whereNested | tryWhereNested | scope | withScopes => cases plain

theorem settles_plain (plain : call.plain) :
    b.Settles [call] [⟨b.scopes, call⟩] (some b.scopes) := by
  rcases plain_answers (b := b) plain with ⟨error, fails⟩ | ⟨passes, next, ends, scopes⟩
  · exact .stopped fails
  · have settled := Settles.single ends passes
    rwa [scopes] at settled

theorem settles_withScopes (given : List (String × Scope)) :
    b.Settles [.withScopes given] [⟨b.scopes, .withScopes given⟩] (some (.ofList given)) := by
  have ends : b.EndsIn [.withScopes given] (b.withScopes (.ofList given)) :=
    (endsIn_single _).mpr ⟨0, rfl⟩
  exact .single ends (Step.passes_of_quiet rfl nofun nofun)

theorem settles_group (connector : Connector) (inside : b.newSearch.Settles calls steps left) :
    b.Settles [.tryWhereNested connector calls]
      (⟨b.scopes, .tryWhereNested connector calls⟩ :: steps) (left.map fun _ => b.scopes) := by
  refine .under (Step.passes_of_quiet rfl nofun nofun) inside ?_ ?_
  · rintro group ends rfl
    refine ⟨b.absorb connector group, (answers_group connector calls).mpr ⟨_, ends, rfl⟩, ?_⟩
    simp
  · intro error answers
    exact (answers_group connector calls).mpr ⟨_, answers, rfl⟩

theorem settles_scope {name : String} {args : List Json} {scope : Scope}
    (known : b.scopes.lookup name = some scope) (inside : b.Settles (scope args) steps last) :
    b.Settles [.scope name args] (⟨b.scopes, .scope name args⟩ :: steps) last := by
  refine .under (Step.passes_of_known known args) inside ?_ ?_
  · intro done ends scopes
    exact ⟨done, (endsIn_scope known).mpr ends, scopes⟩
  · intro error answers
    exact (answers_scope known).mpr answers

-- Along the steps: every call settles with its own, and what is left settles from where it leads.
theorem settles_of_meets {scopes : Registry} (met : Meets scopes calls steps last)
    (here : b.scopes = scopes) : b.Settles calls steps last := by
  induction met generalizing b with
  | nil scopes =>
    subst here
    exact .passed ⟨0, rfl⟩ (List.forall_mem_nil _)
  | halt fails =>
    subst here
    exact .cons_of_halt (.stopped fails) _
  | plain plain _ ihAfter =>
    subst here
    exact .cons (settles_plain plain) fun _ => ihAfter
  | withScopes _ ihAfter =>
    subst here
    exact .cons (settles_withScopes _) fun _ => ihAfter
  | group _ _ ihInside ihAfter =>
    subst here
    exact .cons (settles_group _ (ihInside rfl)) fun _ => ihAfter
  | haltInGroup _ ihInside =>
    subst here
    exact .cons_of_halt (settles_group _ (ihInside rfl)) _
  | scope known _ _ ihInside ihAfter =>
    subst here
    exact .cons (settles_scope known (ihInside rfl)) fun _ => ihAfter
  | haltInScope known _ ihInside =>
    subst here
    exact .cons_of_halt (settles_scope known (ihInside rfl)) _
  | unknown missing _ ihAfter =>
    subst here
    exact .cons (.stopped (.unknown _ missing)) fun _ => ihAfter

end

def MeetsTo (b : Builder) (calls : List Call) (answer : Except Error Builder) : Prop :=
  ∃ steps, Meets b.scopes calls steps (answer.toOption.map (·.scopes))

def MeetsAt (depth : Nat) (call : Call) : Prop :=
  ∀ (b : Builder) (answer : Except Error Builder), b.scopes.Strict →
    call.perform (applied depth) b = some answer → b.MeetsTo [call] answer

section

variable {b : Builder} {call : Call} {calls : List Call} {answer : Except Error Builder}
variable {depth : Nat}

theorem meetsTo_of_plain (plain : call.plain) (answers : b.Answers [call] answer) :
    b.MeetsTo [call] answer := by
  rcases plain_answers (b := b) plain with ⟨error, fails⟩ | ⟨_, next, ends, scopes⟩
  · cases answers.unique (answers_of_fails fails)
    exact ⟨_, .halt fails⟩
  · cases answers.unique ends
    have after : Meets b.scopes [] [] (some next.scopes) := by
      rw [scopes]
      exact .nil _
    exact ⟨_, .plain plain after⟩

theorem meetsTo_of_performAll (each : ∀ call ∈ calls, MeetsAt depth call)
    (strict : ∀ call ∈ calls, call.Strict) (registered : b.scopes.Strict)
    (ran : Call.performAll (applied depth) calls b = some answer) : b.MeetsTo calls answer := by
  induction calls generalizing b with
  | nil =>
    cases ran
    exact ⟨[], .nil _⟩
  | cons call rest ih =>
    obtain ⟨eachFirst, eachRest⟩ := List.forall_mem_cons.mp each
    obtain ⟨strictFirst, strictRest⟩ := List.forall_mem_cons.mp strict
    rw [Call.performAll] at ran
    rcases performed : call.perform (applied depth) b with _ | error | next <;>
      rw [performed] at ran
    · cases ran
    · cases ran
      obtain ⟨steps, met⟩ := eachFirst b _ registered performed
      exact ⟨steps, met.append_of_halt rest⟩
    · obtain ⟨steps, met⟩ := eachFirst b _ registered performed
      have kept : next.scopes.Strict :=
        met.strict registered (List.forall_mem_singleton.mpr strictFirst)
      obtain ⟨later, after⟩ := ih eachRest strictRest kept ran
      exact ⟨steps ++ later, met.append after⟩

theorem meetsAt_of_strict (scopes : ∀ name args, MeetsAt depth (.scope name args))
    (strict : call.Strict) : MeetsAt depth call := by
  induction call with
  | clause call made makes =>
    intro b answer _ performed
    refine meetsTo_of_plain ?_ ((answers_single call).mpr ⟨depth, performed⟩)
    cases call <;> first
      | rfl
      | cases makes
  | setting call change sets =>
    intro b answer _ performed
    refine meetsTo_of_plain ?_ ((answers_single call).mpr ⟨depth, performed⟩)
    cases call <;> first
      | rfl
      | cases sets
  | newSearch | fail =>
    intro b answer _ performed
    exact meetsTo_of_plain rfl ((answers_single _).mpr ⟨depth, performed⟩)
  | whereNested => exact absurd strict Call.Strict.own
  | tryWhereNested connector calls ih =>
    intro b answer registered performed
    have inner : ∀ call ∈ calls, call.Strict := fun call member => strict.inside (.tryGroup member)
    have each : ∀ call ∈ calls, MeetsAt depth call :=
      fun call member => ih call member (inner call member)
    have inherited : b.newSearch.scopes.Strict := registered
    rw [Call.perform] at performed
    rcases ran : Call.performAll (applied depth) calls b.newSearch with _ | error | group <;>
      rw [ran] at performed <;> cases performed
    · obtain ⟨steps, met⟩ := meetsTo_of_performAll each inner inherited ran
      exact ⟨_, .haltInGroup met⟩
    · obtain ⟨steps, met⟩ := meetsTo_of_performAll each inner inherited ran
      have after : Meets b.scopes [] [] (some (b.absorb connector group).scopes) := by
        rw [scopes_absorb]
        exact .nil _
      exact ⟨_, .group met after⟩
  | scope name args => exact scopes name args
  | withScopes given =>
    intro b answer _ performed
    cases performed
    exact ⟨_, .withScopes (.nil _)⟩

theorem meetsAt_scope (depth : Nat) (name : String) (args : List Json) :
    MeetsAt depth (.scope name args) := by
  -- Inside a scope there is one level less to follow, so its calls meet their steps by induction.
  induction depth generalizing name args with
  | zero =>
    intro b answer _ performed
    cases performed
  | succ depth ih =>
    intro b answer registered performed
    rw [Call.perform, applied, Registry.apply] at performed
    cases known : b.scopes.lookup name with
    | none =>
      rw [known] at performed
      cases performed
      exact ⟨_, .halt (.unknown args known)⟩
    | some scope =>
      rw [known] at performed
      have strict := registered name scope known args
      have each : ∀ call ∈ scope args, MeetsAt depth call :=
        fun call answered => meetsAt_of_strict ih (strict call answered)
      obtain ⟨steps, met⟩ := meetsTo_of_performAll each strict registered performed
      cases answer with
      | error => exact ⟨_, .haltInScope known met⟩
      | ok done => exact ⟨_, .scope known met (.nil _)⟩

theorem meetsTo_of_answers (strict : ∀ call ∈ calls, call.Strict) (registered : b.scopes.Strict)
    (answers : b.Answers calls answer) : b.MeetsTo calls answer := by
  obtain ⟨depth, ran⟩ := answers
  have each : ∀ call ∈ calls, MeetsAt depth call :=
    fun call member => meetsAt_of_strict (meetsAt_scope depth) (strict call member)
  exact meetsTo_of_performAll each strict registered ran

end

end Builder

-- The run succeeds exactly when no step that it comes to fails by itself, and else has the failure
-- of the first step that does.
theorem first_failure_decides (b : Builder) {calls : List Call}
    (strict : ∀ call ∈ calls, call.Strict) (registered : b.scopes.Strict) :
    ((∃ answer, b.Answers calls answer) ↔ ∃ steps last, Meets b.scopes calls steps last) ∧
    ∀ steps last, Meets b.scopes calls steps last → ∃ answer,
      (∃ enough, ∀ depth, enough ≤ depth → b.run depth calls = some answer) ∧
      ((∃ done, answer = .ok done) ↔ ∀ step ∈ steps, step.Passes) ∧
      (∀ done, answer = .ok done → last = some done.scopes) ∧
      ∀ error, answer = .error error → ∃ before step later,
        steps = before ++ step :: later ∧ (∀ earlier ∈ before, earlier.Passes) ∧
        step.Fails error := by
  refine ⟨⟨?_, ?_⟩, ?_⟩
  · rintro ⟨answer, answers⟩
    obtain ⟨steps, met⟩ := Builder.meetsTo_of_answers strict registered answers
    exact ⟨steps, _, met⟩
  · rintro ⟨steps, last, met⟩
    exact (Builder.settles_of_meets met rfl).answers
  · intro steps last met
    cases Builder.settles_of_meets met rfl with
    | passed ends passes =>
      obtain ⟨enough, ran⟩ := ends
      refine ⟨_, ⟨enough, fun depth deeper => Builder.run_deeper deeper ran⟩, ?_, ?_, ?_⟩
      · exact ⟨fun _ => passes, fun _ => ⟨_, rfl⟩⟩
      · rintro _ ⟨⟩
        rfl
      · rintro _ ⟨⟩
    | @failed before later step error _ answers passes fails =>
      obtain ⟨enough, ran⟩ := answers
      refine ⟨_, ⟨enough, fun depth deeper => Builder.run_deeper deeper ran⟩, ?_, ?_, ?_⟩
      · constructor
        · rintro ⟨_, ⟨⟩⟩
        · intro passing
          have here : step ∈ before ++ step :: later := by simp
          exact absurd fails (passing step here error)
      · rintro _ ⟨⟩
      · rintro _ ⟨⟩
        exact ⟨before, step, later, rfl, passes, fails⟩

theorem failure_of_scope_in_group :
    let adults : Scope := fun _ => [.whereOp .must "age" ">=" (.nat 18)]
    let recent : Scope := .needing 1 fun args =>
      [.tryWhereNested .should [.scope "adults" [], .whereWith .must "day" "range" args.head?]]
    let start := (Builder.ofTarget ⟨"people", none⟩).withScopes
      (.ofList [("adults", adults), ("recent", recent)])
    let calls : List Call :=
      [.tryWhereNested .must [.withScopes [], .whereText .must "bio" (.string "rider")],
        .scope "recent" [.nat 7]]
    (∀ call ∈ calls, call.Strict) ∧ start.scopes.Strict ∧
    ∃ steps last, Meets start.scopes calls steps last ∧ ∃ before step later,
      steps = before ++ step :: later ∧ (∀ earlier ∈ before, earlier.Passes) ∧
      step.Fails (.invalidArgument (.notAPair (.nat 7))) := by
  intro adults recent start calls
  have strict : ∀ call ∈ calls, call.Strict := by
    refine List.forall_mem_cons.mpr ⟨.group ?_, List.forall_mem_singleton.mpr (.scope _ _)⟩
    refine List.forall_mem_cons.mpr ⟨.withScopes nofun, List.forall_mem_singleton.mpr ?_⟩
    exact .plain rfl
  have adultsStrict : ∀ args, ∀ call ∈ adults args, call.Strict := by
    intro args
    exact List.forall_mem_singleton.mpr (.plain rfl)
  have recentStrict : ∀ args, ∀ call ∈ recent args, call.Strict := by
    refine Scope.strict_needing ?_
    intro args
    refine List.forall_mem_singleton.mpr (.group ?_)
    exact List.forall_mem_cons.mpr ⟨.scope _ _, List.forall_mem_singleton.mpr (.plain rfl)⟩
  have registered : start.scopes.Strict := by
    refine Registry.strict_of_withScopes (.withScopes ?_)
    exact List.forall_mem_cons.mpr ⟨adultsStrict, List.forall_mem_singleton.mpr recentStrict⟩
  have met : Meets start.scopes calls _ (some start.scopes) :=
    .group (.withScopes (.plain rfl (.nil _)))
      (.scope rfl (.group (.scope rfl (.plain rfl (.nil _)) (.plain rfl (.nil _))) (.nil _)) (.nil _))
  obtain ⟨answer, ⟨enough, ran⟩, _, _, failed⟩ :=
    (first_failure_decides start strict registered).2 _ _ met
  have stopped : start.run 2 calls = some (.error (.invalidArgument (.notAPair (.nat 7)))) :=
    rfl
  have same := ran _ (Nat.le_max_left enough 2)
  rw [Builder.run_deeper (Nat.le_max_right enough 2) stopped] at same
  exact ⟨strict, registered, _, _, met, failed _ (Option.some.inj same).symm⟩

end SearchQuery
