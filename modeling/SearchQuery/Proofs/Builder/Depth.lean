import SearchQuery.Proofs.Builder.Lockstep

namespace SearchQuery

-- More depth for scopes never changes an answer, so a run with scopes has one end whatever the
-- depth at which it is found.

theorem lockstep_eq : Lockstep Eq fun _ => True where
  inside _ _ := trivial
  scopes same := same ▸ rfl
  answers _ _ _ _ _ := trivial
  clause same _ _ := same ▸ rfl
  setting same _ _ := same ▸ rfl
  newSearch same := same ▸ rfl
  absorb same _ grouped := same ▸ grouped ▸ rfl
  withScopes same _ := same ▸ rfl

theorem Follows.eq {answer : Except Error Builder} {other : Option (Except Error Builder)}
    (follows : Follows Eq (some answer) other) : other = some answer := by
  cases follows with
  | error error => rfl
  | ok same => rw [same]

namespace Builder

theorem run_deeper {shallow deep : Nat} (deeper : shallow ≤ deep) {b : Builder}
    {calls : List Call} {answer : Except Error Builder} (ran : b.run shallow calls = some answer) :
    b.run deep calls = some answer :=
  (ran ▸ run_follows lockstep_eq deeper (fun _ _ => trivial) rfl).eq

def Answers (b : Builder) (calls : List Call) (answer : Except Error Builder) : Prop :=
  ∃ depth, b.run depth calls = some answer

def EndsIn (b : Builder) (calls : List Call) (done : Builder) : Prop :=
  ∃ depth, b.run depth calls = some (.ok done)

theorem Answers.unique {b : Builder} {calls : List Call} {one other : Except Error Builder}
    (first : b.Answers calls one) (second : b.Answers calls other) : one = other := by
  obtain ⟨shallow, ranOne⟩ := first
  obtain ⟨deep, ranOther⟩ := second
  have atOne := run_deeper (Nat.le_max_left shallow deep) ranOne
  have atOther := run_deeper (Nat.le_max_right shallow deep) ranOther
  rw [atOne] at atOther
  exact Option.some.inj atOther

theorem EndsIn.unique {b one other : Builder} {calls : List Call} (first : b.EndsIn calls one)
    (second : b.EndsIn calls other) : one = other :=
  Except.ok.inj (Answers.unique first second)

section

variable {b next done : Builder} {first : List Call} {answer : Except Error Builder}

theorem EndsIn.answers_append (ends : b.EndsIn first next) {second : List Call}
    (answers : next.Answers second answer) : b.Answers (first ++ second) answer := by
  obtain ⟨shallow, ranFirst⟩ := ends
  obtain ⟨deep, ranSecond⟩ := answers
  have atFirst := run_deeper (Nat.le_max_left shallow deep) ranFirst
  have atSecond := run_deeper (Nat.le_max_right shallow deep) ranSecond
  refine ⟨max shallow deep, ?_⟩
  rw [run] at atFirst
  rw [run, Call.performAll_append, atFirst]
  exact atSecond

theorem Answers.append_of_error {error : Error} (failed : b.Answers first (.error error))
    (second : List Call) : b.Answers (first ++ second) (.error error) := by
  obtain ⟨depth, ran⟩ := failed
  refine ⟨depth, ?_⟩
  rw [run] at ran
  rw [run, Call.performAll_append, ran]

theorem endsIn_append (first second : List Call) :
    b.EndsIn (first ++ second) done ↔ ∃ next, b.EndsIn first next ∧ next.EndsIn second done := by
  constructor
  · rintro ⟨depth, ran⟩
    rw [run, Call.performAll_append] at ran
    rcases middle : Call.performAll (applied depth) first b with _ | _ | next
    · simp [middle] at ran
    · simp [middle] at ran
    · rw [middle] at ran
      exact ⟨next, ⟨depth, middle⟩, ⟨depth, ran⟩⟩
  · rintro ⟨next, endsFirst, endsSecond⟩
    exact endsFirst.answers_append endsSecond

theorem endsIn_cons (call : Call) (rest : List Call) :
    b.EndsIn (call :: rest) done ↔ ∃ next, b.EndsIn [call] next ∧ next.EndsIn rest done :=
  endsIn_append [call] rest

theorem answers_single (call : Call) :
    b.Answers [call] answer ↔ ∃ depth, call.perform (applied depth) b = some answer := by
  simp only [Answers, run, Call.performAll]
  apply exists_congr
  intro depth
  rcases call.perform (applied depth) b with _ | _ | next <;> rfl

theorem endsIn_single (call : Call) :
    b.EndsIn [call] done ↔ ∃ depth, call.perform (applied depth) b = some (.ok done) :=
  answers_single call

theorem answers_group (connector : Connector) (calls : List Call) :
    b.Answers [.tryWhereNested connector calls] answer ↔
      ∃ inner, b.newSearch.Answers calls inner ∧ inner.map (b.absorb connector) = answer := by
  rw [answers_single]
  constructor
  · rintro ⟨depth, performed⟩
    rw [Call.perform] at performed
    rcases ran : Call.performAll (applied depth) calls b.newSearch with _ | error | group <;>
      rw [ran] at performed <;> cases performed
    · exact ⟨.error error, ⟨depth, ran⟩, rfl⟩
    · exact ⟨.ok group, ⟨depth, ran⟩, rfl⟩
  · rintro ⟨inner, ⟨depth, ran⟩, rfl⟩
    refine ⟨depth, ?_⟩
    rw [run] at ran
    rw [Call.perform, ran]
    cases inner <;> rfl

theorem answers_scope {name : String} {args : List Json} {scope : Scope}
    (known : b.scopes.lookup name = some scope) :
    b.Answers [.scope name args] answer ↔ b.Answers (scope args) answer := by
  rw [answers_single]
  constructor
  · rintro ⟨depth, performed⟩
    cases depth with
    | zero => cases performed
    | succ depth =>
      rw [Call.perform, applied, Registry.apply, known] at performed
      exact ⟨depth, performed⟩
  · rintro ⟨depth, ran⟩
    refine ⟨depth + 1, ?_⟩
    rw [Call.perform, applied, Registry.apply, known]
    exact ran

theorem endsIn_scope {name : String} {args : List Json} {scope : Scope}
    (known : b.scopes.lookup name = some scope) :
    b.EndsIn [.scope name args] done ↔ b.EndsIn (scope args) done :=
  answers_scope known

theorem answers_unknown {name : String} (args : List Json)
    (missing : b.scopes.lookup name = none) :
    b.Answers [.scope name args] (.error (.unknownOperation name)) := by
  refine (answers_single _).mpr ⟨1, ?_⟩
  rw [Call.perform, applied, Registry.apply, missing]

theorem not_endsIn_unknown {name : String} {args : List Json}
    (missing : b.scopes.lookup name = none) : ¬ b.EndsIn [.scope name args] done := by
  intro ends
  cases Answers.unique (answers_unknown args missing) ends

theorem answers_fail (error : Error) : b.Answers [.fail error] (.error error) :=
  (answers_single _).mpr ⟨0, rfl⟩

theorem not_endsIn_fail (error : Error) : ¬ b.EndsIn [.fail error] done := by
  intro ends
  cases Answers.unique (answers_fail error) ends

end

end Builder

end SearchQuery
