import SearchQuery.Builder.Run

namespace SearchQuery

-- What a single call does, said once for all kinds of calls: most append a clause that they make
-- by themselves, or change something else than clauses and scopes.

namespace Call

def clause? : Call → Option (Except Error Clause)
  | .addClause clause => some (.ok clause)
  | .whereEq connector field value => some (.ok (.equality field value connector))
  | .whereOp connector field operator value =>
    some (Clause.normalize field operator (Builder.nonNull value) connector)
  | .whereWith connector field operator value =>
    some (Clause.normalize field operator value connector)
  | .whereText connector field value =>
    some (Clause.normalize field "text" (Builder.nonNull value) connector)
  | .whereBetween connector field low high =>
    some (.ok (.leaf connector (.range field (.between low high))))
  | .whereNotNull connector field => some (.ok (.leaf connector (.present field)))
  | .whereRaw connector node => some (.ok (.leaf connector (.raw node)))
  | _ => none

def setting? : Call → Option (Builder → Builder)
  | .offset value => some (·.skip value)
  | .limit value => some (·.take value)
  | .forPage page perPage => some (·.forPage page perPage)
  | .orderBy field direction => some (·.orderBy field direction)
  | .setScriptScore script => some (·.setScriptScore script)
  | .withPerPage perPage => some ({ · with perPage })
  | .withPageName pageName => some ({ · with pageName })
  | .withColumns columns => some ({ · with columns })
  | .withIdResolver resolver => some ({ · with idResolver := some resolver })
  | _ => none

theorem setting?_of_clause {call : Call} {made : Except Error Clause}
    (makes : call.clause? = some made) : call.setting? = none := by
  cases call <;> first
    | rfl
    | cases makes

inductive Within : Call → Call → Prop where
  | group {inner : Call} {connector : Connector} {calls : List Call} (member : inner ∈ calls) :
      Within inner (.whereNested connector calls)
  | tryGroup {inner : Call} {connector : Connector} {calls : List Call} (member : inner ∈ calls) :
      Within inner (.tryWhereNested connector calls)
  | scope {inner : Call} {name : String} {scope : Scope} {scopes : List (String × Scope)}
      {args : List Json} (entry : (name, scope) ∈ scopes) (member : inner ∈ scope args) :
      Within inner (.withScopes scopes)

@[induction_eliminator]
theorem induction {motive : Call → Prop}
    (clause : ∀ call made, clause? call = some made → motive call)
    (setting : ∀ call change, setting? call = some change → motive call)
    (whereNested : ∀ connector calls, (∀ call ∈ calls, motive call) →
      motive (.whereNested connector calls))
    (tryWhereNested : ∀ connector calls, (∀ call ∈ calls, motive call) →
      motive (.tryWhereNested connector calls))
    (scope : ∀ name args, motive (.scope name args))
    (withScopes : ∀ scopes, (∀ entry ∈ scopes, ∀ args, ∀ call ∈ entry.2 args, motive call) →
      motive (.withScopes scopes))
    (newSearch : motive .newSearch)
    (fail : ∀ error, motive (.fail error))
    (call : Call) : motive call := by
  -- Lists of calls and the scopes of a registry carry what is known of the calls in them.
  refine @Call.rec motive
    (fun calls => ∀ call ∈ calls, motive call)
    (fun scopes => ∀ entry ∈ scopes, ∀ args, ∀ call ∈ entry.2 args, motive call)
    (fun entry => ∀ args, ∀ call ∈ entry.2 args, motive call)
    (fun _ => clause _ _ rfl) (fun _ _ _ => clause _ _ rfl) (fun _ _ _ _ => clause _ _ rfl)
    (fun _ _ _ _ => clause _ _ rfl) (fun _ _ _ => clause _ _ rfl) (fun _ _ _ _ => clause _ _ rfl)
    (fun _ _ => clause _ _ rfl) (fun _ _ => clause _ _ rfl)
    whereNested tryWhereNested scope withScopes
    (fun _ => setting _ _ rfl) (fun _ => setting _ _ rfl) (fun _ _ => setting _ _ rfl)
    (fun _ _ => setting _ _ rfl) (fun _ => setting _ _ rfl) (fun _ => setting _ _ rfl)
    (fun _ => setting _ _ rfl) (fun _ => setting _ _ rfl) (fun _ => setting _ _ rfl)
    newSearch fail ?noCalls ?moreCalls ?noScopes ?moreScopes ?entry call
  case noCalls => exact nofun
  case noScopes => exact nofun
  case moreCalls =>
    intro first rest holdsFirst holdsRest
    exact List.forall_mem_cons.mpr ⟨holdsFirst, holdsRest⟩
  case moreScopes =>
    intro first rest holdsFirst holdsRest
    exact List.forall_mem_cons.mpr ⟨holdsFirst, holdsRest⟩
  case entry =>
    intro name scope holds
    exact holds

section

variable {applied : Applied} {b done : Builder}

theorem performAll_cons_eq_ok_iff {applied : Applied} {call : Call} {rest : List Call} :
    performAll applied (call :: rest) b = some (.ok done) ↔
      ∃ next, call.perform applied b = some (.ok next) ∧
        performAll applied rest next = some (.ok done) := by
  rw [performAll]
  rcases call.perform applied b with _ | _ | next <;> simp

theorem perform_of_clause {call : Call} {made : Except Error Clause}
    (makes : call.clause? = some made) :
    call.perform applied b = some (made.map b.addClause) := by
  cases call <;> simp only [clause?, Option.some.injEq, reduceCtorEq] at makes <;>
    subst makes <;> rfl

theorem perform_of_setting {call : Call} {change : Builder → Builder}
    (sets : call.setting? = some change) : call.perform applied b = some (.ok (change b)) := by
  cases call <;> simp only [setting?, Option.some.injEq, reduceCtorEq] at sets <;>
    subst sets <;> rfl

theorem clauses_of_setting {call : Call} {change : Builder → Builder}
    (sets : call.setting? = some change) : (change b).clauses = b.clauses := by
  cases call <;> simp only [setting?, Option.some.injEq, reduceCtorEq] at sets <;>
    subst sets <;> simp [Builder.orderBy, Builder.setScriptScore]

theorem scopes_of_setting {call : Call} {change : Builder → Builder}
    (sets : call.setting? = some change) : (change b).scopes = b.scopes := by
  cases call <;> simp only [setting?, Option.some.injEq, reduceCtorEq] at sets <;>
    subst sets <;> simp [Builder.orderBy, Builder.setScriptScore, Builder.skip, Builder.forPage_eq]
  case limit value =>
    unfold Builder.take
    split <;> rfl

end

end Call

end SearchQuery
