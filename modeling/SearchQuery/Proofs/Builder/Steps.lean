import SearchQuery.Proofs.Builder.Calls
import SearchQuery.Proofs.Builder.Operators

namespace SearchQuery

-- The calls that a run comes to, those of groups and scopes among them, written down in order, and
-- how a call fails by itself.

namespace Call

def operand? : Call → Option (String × Option Json)
  | .whereOp _ _ operator value => some (operator, Builder.nonNull value)
  | .whereWith _ _ operator value => some (operator, value)
  | .whereText _ _ value => some ("text", Builder.nonNull value)
  | _ => none

def plain : Call → Bool
  | .whereNested _ _ | .tryWhereNested _ _ | .scope _ _ | .withScopes _ => false
  | _ => true

theorem clause?_of_operand {call : Call} {token : String} {value : Option Json}
    (operates : call.operand? = some (token, value)) : ∃ field connector,
      call.clause? = some (Clause.normalize field token value connector) := by
  cases call <;> cases operates <;> exact ⟨_, _, rfl⟩

theorem clause?_of_no_operand {call : Call} {made : Except Error Clause}
    (without : call.operand? = none) (makes : call.clause? = some made) :
    ∃ clause, made = .ok clause := by
  cases call <;> cases without <;> cases makes <;> exact ⟨_, rfl⟩

-- No call that goes on past failures, neither this one nor one that it is made of.
inductive Strict : Call → Prop where
  | intro {call : Call} (own : ∀ connector calls, call ≠ .whereNested connector calls)
      (inside : ∀ inner, Within inner call → Strict inner) : Strict call

theorem Strict.own {connector : Connector} {calls : List Call} :
    ¬ Strict (.whereNested connector calls) := by
  rintro ⟨own⟩
  exact own connector calls rfl

theorem Strict.inside {call inner : Call} (strict : call.Strict) (within : inner.Within call) :
    inner.Strict := by
  cases strict with
  | intro _ inside => exact inside inner within

theorem Strict.plain {call : Call} (plain : call.plain) : call.Strict := by
  refine .intro ?_ ?_
  · rintro connector calls rfl
    cases plain
  · rintro inner (_ | _ | _) <;> cases plain

theorem Strict.scope (name : String) (args : List Json) : Strict (.scope name args) :=
  .intro nofun nofun

theorem Strict.group {connector : Connector} {calls : List Call}
    (strict : ∀ call ∈ calls, call.Strict) : Strict (.tryWhereNested connector calls) := by
  refine .intro nofun ?_
  rintro inner (_ | ⟨member⟩ | _)
  exact strict inner member

theorem Strict.withScopes {scopes : List (String × Scope)}
    (strict : ∀ entry ∈ scopes, ∀ args, ∀ call ∈ entry.2 args, call.Strict) :
    Strict (.withScopes scopes) := by
  refine .intro nofun ?_
  rintro inner (_ | _ | ⟨entry, member⟩)
  exact strict _ entry _ inner member

theorem operand?_of_setting {call : Call} {change : Builder → Builder}
    (sets : call.setting? = some change) : call.operand? = none := by
  cases call <;> first
    | rfl
    | cases sets

end Call

theorem Scope.strict_needing {needed : Nat} {scope : Scope}
    (strict : ∀ args, ∀ call ∈ scope args, call.Strict) (args : List Json) :
    ∀ call ∈ Scope.needing needed scope args, call.Strict := by
  unfold Scope.needing
  split
  · exact List.forall_mem_singleton.mpr (.plain rfl)
  · exact strict args

def Registry.Strict (registry : Registry) : Prop :=
  ∀ name scope, registry.lookup name = some scope → ∀ args, ∀ call ∈ scope args, call.Strict

theorem Registry.strict_of_withScopes {scopes : List (String × Scope)}
    (strict : (Call.withScopes scopes).Strict) : (ofList scopes).Strict := by
  intro name scope known args call answered
  exact strict.inside (.scope (mem_of_lookup_ofList known) answered)

structure Step where
  scopes : Registry
  call : Call

namespace Step

-- How a call fails by itself. A group, and a scope that is known, fails through its calls only.
inductive Fails : Step → Error → Prop where
  | value {scopes : Registry} {call : Call} {token : String} {value : Option Json}
      {fault : ArgumentFault} (operates : call.operand? = some (token, value))
      (faulty : valueFault? token value = some fault) :
      Fails ⟨scopes, call⟩ (.invalidArgument fault)
  | check (scopes : Registry) (error : Error) : Fails ⟨scopes, .fail error⟩ error
  | unknown {scopes : Registry} {name : String} (args : List Json)
      (missing : scopes.lookup name = none) :
      Fails ⟨scopes, .scope name args⟩ (.unknownOperation name)

def Passes (step : Step) : Prop := ∀ error, ¬ step.Fails error

theorem passes_of_faultless {scopes : Registry} {call : Call} {token : String}
    {value : Option Json} (operates : call.operand? = some (token, value))
    (faultless : valueFault? token value = none) : Passes ⟨scopes, call⟩ := by
  intro error fails
  cases fails with
  | value operatesToo faulty =>
    rw [operates] at operatesToo
    cases operatesToo
    rw [faultless] at faulty
    cases faulty
  | check => cases operates
  | unknown => cases operates

theorem passes_of_known {scopes : Registry} {name : String} {scope : Scope}
    (known : scopes.lookup name = some scope) (args : List Json) :
    Passes ⟨scopes, .scope name args⟩ := by
  intro error fails
  cases fails with
  | value operates => cases operates
  | unknown _ missing =>
    rw [known] at missing
    cases missing

theorem passes_of_quiet {scopes : Registry} {call : Call} (without : call.operand? = none)
    (unchecked : ∀ error, call ≠ .fail error) (unscoped : ∀ name args, call ≠ .scope name args) :
    Passes ⟨scopes, call⟩ := by
  intro error fails
  cases fails with
  | value operates =>
    rw [without] at operates
    cases operates
  | check => exact unchecked error rfl
  | unknown args => exact unscoped _ args rfl

end Step

-- The calls that a run comes to under some scopes, whether they fail or not, and the scopes that it
-- leaves. A group keeps its scopes to itself; a scope hands its own on.
inductive Meets : Registry → List Call → List Step → Option Registry → Prop where
  | nil (scopes : Registry) : Meets scopes [] [] (some scopes)
  | halt {scopes : Registry} {call : Call} {rest : List Call} {error : Error}
      (fails : Step.Fails ⟨scopes, call⟩ error) :
      Meets scopes (call :: rest) [⟨scopes, call⟩] none
  | plain {scopes : Registry} {last : Option Registry} {call : Call} {rest : List Call}
      {later : List Step} (plain : call.plain) (after : Meets scopes rest later last) :
      Meets scopes (call :: rest) (⟨scopes, call⟩ :: later) last
  | withScopes {scopes : Registry} {last : Option Registry} {given : List (String × Scope)}
      {rest : List Call} {later : List Step} (after : Meets (.ofList given) rest later last) :
      Meets scopes (.withScopes given :: rest) (⟨scopes, .withScopes given⟩ :: later) last
  | group {scopes left : Registry} {last : Option Registry} {connector : Connector}
      {inner rest : List Call} {steps later : List Step}
      (inside : Meets scopes inner steps (some left)) (after : Meets scopes rest later last) :
      Meets scopes (.tryWhereNested connector inner :: rest)
        (⟨scopes, .tryWhereNested connector inner⟩ :: steps ++ later) last
  | haltInGroup {scopes : Registry} {connector : Connector} {inner rest : List Call}
      {steps : List Step} (inside : Meets scopes inner steps none) :
      Meets scopes (.tryWhereNested connector inner :: rest)
        (⟨scopes, .tryWhereNested connector inner⟩ :: steps) none
  | scope {scopes left : Registry} {last : Option Registry} {name : String} {args : List Json}
      {scope : Scope} {rest : List Call} {steps later : List Step}
      (known : scopes.lookup name = some scope)
      (inside : Meets scopes (scope args) steps (some left)) (after : Meets left rest later last) :
      Meets scopes (.scope name args :: rest)
        (⟨scopes, .scope name args⟩ :: steps ++ later) last
  | haltInScope {scopes : Registry} {name : String} {args : List Json} {scope : Scope}
      {rest : List Call} {steps : List Step} (known : scopes.lookup name = some scope)
      (inside : Meets scopes (scope args) steps none) :
      Meets scopes (.scope name args :: rest) (⟨scopes, .scope name args⟩ :: steps) none
  | unknown {scopes : Registry} {last : Option Registry} {name : String} {args : List Json}
      {rest : List Call} {later : List Step} (missing : scopes.lookup name = none)
      (after : Meets scopes rest later last) :
      Meets scopes (.scope name args :: rest) (⟨scopes, .scope name args⟩ :: later) last

namespace Meets

variable {scopes middle left : Registry} {last : Option Registry} {calls rest : List Call}
variable {steps later : List Step}

theorem append (met : Meets scopes calls steps (some middle)) (after : Meets middle rest later last) :
    Meets scopes (calls ++ rest) (steps ++ later) last := by
  generalize ended : some middle = stop at met
  induction met with
  | nil =>
    cases ended
    exact after
  | halt | haltInGroup | haltInScope => cases ended
  | plain plain _ ih => exact .plain plain (ih ended)
  | withScopes _ ih => exact .withScopes (ih ended)
  | unknown missing _ ih => exact .unknown missing (ih ended)
  | group inside _ _ ih =>
    rw [List.append_assoc]
    exact .group inside (ih ended)
  | scope known inside _ _ ih =>
    rw [List.append_assoc]
    exact .scope known inside (ih ended)

theorem append_of_halt (met : Meets scopes calls steps none) (rest : List Call) :
    Meets scopes (calls ++ rest) steps none := by
  generalize ended : none = stop at met
  induction met with
  | nil => cases ended
  | halt fails => exact .halt fails
  | haltInGroup inside => exact .haltInGroup inside
  | haltInScope known inside => exact .haltInScope known inside
  | plain plain _ ih => exact .plain plain (ih ended)
  | withScopes _ ih => exact .withScopes (ih ended)
  | unknown missing _ ih => exact .unknown missing (ih ended)
  | group inside _ _ ih => exact .group inside (ih ended)
  | scope known inside _ _ ih => exact .scope known inside (ih ended)

theorem strict (met : Meets scopes calls steps (some left)) (registered : scopes.Strict)
    (allowed : ∀ call ∈ calls, call.Strict) : left.Strict := by
  generalize ended : some left = stop at met
  induction met generalizing left with
  | nil =>
    cases ended
    exact registered
  | halt | haltInGroup | haltInScope => cases ended
  | plain _ _ ih | unknown _ _ ih | group _ _ _ ih =>
    exact ih registered (List.forall_mem_cons.mp allowed).2 ended
  | withScopes _ ih =>
    obtain ⟨first, others⟩ := List.forall_mem_cons.mp allowed
    exact ih (Registry.strict_of_withScopes first) others ended
  | scope known _ _ ihInside ihAfter =>
    have inside := ihInside registered (registered _ _ known _) rfl
    exact ihAfter inside (List.forall_mem_cons.mp allowed).2 ended

end Meets

end SearchQuery
