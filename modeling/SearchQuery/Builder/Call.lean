import SearchQuery.Clause.Basic
import SearchQuery.Error
import SearchQuery.ResultPage

namespace SearchQuery

-- Calls on a builder as data. A group holds the calls that its own builder receives, and a scope
-- turns the arguments it is given into calls, so whole searches can be compared, reordered and run.
inductive Call where
  | addClause (clause : Clause)
  | whereEq (connector : Connector) (field : String) (value : Json)
  -- A null value counts as no value.
  | whereOp (connector : Connector) (field operator : String) (value : Json)
  | whereWith (connector : Connector) (field operator : String) (value : Option Json)
  | whereText (connector : Connector) (field : String) (value : Json)
  | whereBetween (connector : Connector) (field : String) (low high : Json)
  | whereNotNull (connector : Connector) (field : String)
  | whereRaw (connector : Connector) (node : Node)
  -- A group that passes over the calls that fail.
  | whereNested (connector : Connector) (calls : List Call)
  -- A group that fails with the first of its calls that fails.
  | tryWhereNested (connector : Connector) (calls : List Call)
  | scope (name : String) (args : List Json)
  | withScopes (scopes : List (String × (List Json → List Call)))
  | offset (value : Int)
  | limit (value : Int)
  | forPage (page perPage : Int)
  | orderBy (field direction : String)
  | setScriptScore (script : ScoreScript)
  | withPerPage (perPage : Int)
  | withPageName (pageName : String)
  | withColumns (columns : List String)
  | withIdResolver (resolver : Hit → String)
  | newSearch
  -- A check that did not hold, made by a scope on its arguments.
  | fail (error : Error)

abbrev Scope := List Json → List Call

abbrev Registry := List (String × Scope)

namespace Call

def whereNull (field : String) : Call := .whereNotNull .mustNot field

def whereRawJson (connector : Connector) (query : Json) : Call := .whereRaw connector (.raw query)

def orderByDesc (field : String) : Call := .orderBy field "desc"

def orderByScriptScore (source : String) : Call := .setScriptScore (.expression source)

end Call

def Scope.needing (needed : Nat) (scope : Scope) : Scope := fun args =>
  if args.length < needed then [.fail (.invalidArgument (.missingArguments needed))]
  else scope args

namespace Registry

def insert (registry : Registry) (name : String) (scope : Scope) : Registry :=
  match registry with
  | [] => [(name, scope)]
  | (key, old) :: rest =>
    if key = name then (name, scope) :: rest
    else if name < key then (name, scope) :: (key, old) :: rest
    else (key, old) :: insert rest name scope

def ofList (scopes : List (String × Scope)) : Registry :=
  scopes.foldl (fun registry (name, scope) => insert registry name scope) []

def names (registry : Registry) : List String := registry.map (·.1)

def contains (registry : Registry) (name : String) : Bool := (registry.lookup name).isSome

theorem lookup_insert_same (registry : Registry) (name : String) (scope : Scope) :
    (insert registry name scope).lookup name = some scope := by
  induction registry with
  | nil => simp [insert]
  | cons entry rest ih =>
    obtain ⟨key, old⟩ := entry
    unfold insert
    split
    · simp
    · rename_i differ
      split
      · simp
      · have missed : (name == key) = false := by simpa using Ne.symm differ
        simp [List.lookup_cons, missed, ih]

theorem lookup_insert_other (registry : Registry) {name other : String} (scope : Scope)
    (differ : other ≠ name) : (insert registry name scope).lookup other = registry.lookup other := by
  have missed : (other == name) = false := by simpa using differ
  induction registry with
  | nil => simp [insert, List.lookup_cons, missed]
  | cons entry rest ih =>
    obtain ⟨key, old⟩ := entry
    unfold insert
    split
    · rename_i same
      subst same
      simp [List.lookup_cons, missed]
    · split
      · simp [List.lookup_cons, missed]
      · cases found : other == key <;> simp [List.lookup_cons, found, ih]

theorem mem_of_lookup_ofList {scopes : List (String × Scope)} {name : String} {scope : Scope}
    (found : (ofList scopes).lookup name = some scope) : (name, scope) ∈ scopes := by
  suffices grown : ∀ registry : Registry,
      (scopes.foldl (fun registry entry => registry.insert entry.1 entry.2) registry).lookup name =
        some scope → (name, scope) ∈ scopes ∨ registry.lookup name = some scope from
    (grown [] found).resolve_right nofun
  clear found
  induction scopes with
  | nil => exact fun _ found => .inr found
  | cons entry rest ih =>
    intro registry found
    rcases ih _ found with later | here
    · exact .inl (List.mem_cons_of_mem _ later)
    · by_cases same : name = entry.1
      · subst same
        rw [lookup_insert_same] at here
        cases here
        exact .inl (List.mem_cons_self ..)
      · rw [lookup_insert_other _ _ same] at here
        exact .inr here

end Registry

end SearchQuery
