import SearchQuery.Builder.Basic

namespace SearchQuery

-- Running calls. Scopes may call scopes, so a run is given the depth to which it may follow them;
-- `none` says that the depth was not enough.

abbrev Applied := String → List Json → Builder → Option (Except Error Builder)

namespace Call

mutual
def perform (applied : Applied) : Call → Builder → Option (Except Error Builder)
  | .addClause clause, b => some (.ok (b.addClause clause))
  | .whereEq connector field value, b => some (.ok (b.whereEq connector field value))
  | .whereOp connector field operator value, b => some (b.whereOp connector field operator value)
  | .whereWith connector field operator value, b =>
    some (b.whereWith connector field operator value)
  | .whereText connector field value, b => some (b.whereText connector field value)
  | .whereBetween connector field low high, b =>
    some (.ok (b.whereBetween connector field low high))
  | .whereNotNull connector field, b => some (.ok (b.whereNotNull connector field))
  | .whereRaw connector node, b => some (.ok (b.whereRaw connector node))
  | .whereNested connector calls, b =>
    match performEach applied calls b.newSearch with
    | some group => some (.ok (b.absorb connector group))
    | none => none
  | .tryWhereNested connector calls, b =>
    match performAll applied calls b.newSearch with
    | some (.ok group) => some (.ok (b.absorb connector group))
    | some (.error error) => some (.error error)
    | none => none
  | .scope name args, b => applied name args b
  | .withScopes scopes, b => some (.ok (b.withScopes (.ofList scopes)))
  | .offset value, b => some (.ok (b.skip value))
  | .limit value, b => some (.ok (b.take value))
  | .forPage page perPage, b => some (.ok (b.forPage page perPage))
  | .orderBy field direction, b => some (.ok (b.orderBy field direction))
  | .setScriptScore script, b => some (.ok (b.setScriptScore script))
  | .withPerPage perPage, b => some (.ok { b with perPage })
  | .withPageName pageName, b => some (.ok { b with pageName })
  | .withColumns columns, b => some (.ok { b with columns })
  | .withIdResolver resolver, b => some (.ok { b with idResolver := some resolver })
  | .newSearch, b => some (.ok b.newSearch)
  | .fail error, _ => some (.error error)
def performAll (applied : Applied) : List Call → Builder → Option (Except Error Builder)
  | [], b => some (.ok b)
  | call :: rest, b =>
    match perform applied call b with
    | some (.ok next) => performAll applied rest next
    | some (.error error) => some (.error error)
    | none => none
def performEach (applied : Applied) : List Call → Builder → Option Builder
  | [], b => some b
  | call :: rest, b =>
    match perform applied call b with
    | some (.ok next) => performEach applied rest next
    | some (.error _) => performEach applied rest b
    | none => none
end

theorem performAll_append (applied : Applied) (first second : List Call) (b : Builder) :
    performAll applied (first ++ second) b = match performAll applied first b with
      | some (.ok next) => performAll applied second next
      | some (.error error) => some (.error error)
      | none => none := by
  induction first generalizing b with
  | nil => rfl
  | cons call rest ih =>
    rw [List.cons_append, performAll, performAll]
    rcases call.perform applied b with _ | _ | next
    · rfl
    · rfl
    · exact ih next

theorem performAll_map {α : Type} (applied : Applied) (call : α → Call)
    (step : Builder → α → Builder)
    (performs : ∀ item b, (call item).perform applied b = some (.ok (step b item)))
    (items : List α) (b : Builder) :
    performAll applied (items.map call) b = some (.ok (items.foldl step b)) := by
  induction items generalizing b with
  | nil => rfl
  | cons item rest ih =>
    rw [List.map_cons, performAll, performs]
    exact ih (step b item)

end Call

def Registry.apply (registry : Registry) (run : List Call → Builder → Option (Except Error Builder))
    (name : String) (args : List Json) (b : Builder) : Option (Except Error Builder) :=
  match registry.lookup name with
  | some scope => run (scope args) b
  | none => some (.error (.unknownOperation name))

namespace Builder

def applied : Nat → Applied
  | 0, _, _, _ => none
  | depth + 1, name, args, b => b.scopes.apply (Call.performAll (applied depth)) name args b

def call (depth : Nat) (b : Builder) (call : Call) : Option (Except Error Builder) :=
  call.perform (applied depth) b

def run (depth : Nat) (b : Builder) (calls : List Call) : Option (Except Error Builder) :=
  Call.performAll (applied depth) calls b

end Builder

end SearchQuery
