import SearchQuery.Clause.Basic
import SearchQuery.Error

namespace SearchQuery

-- Clause lists as JSON, for searches that are stored and read back. Decoding checks a clause from
-- the outside in (an object, its kind, its connector, its payload) and reports the first offence.
namespace Clause

def head (kind : String) (connector : Connector) : List (String × Json) :=
  [("kind", .string kind), ("connector", .string connector.name)]

def payload : Leaf → List (String × Json)
  | .term field value => [("field", .string field), ("value", value)]
  | .range field bounds => [("field", .string field), ("value", bounds.toJson)]
  | .matchPhrase field phrase => [("field", .string field), ("value", phrase)]
  | .present field => [("field", .string field)]
  | .raw node => [("query", node.toJson)]

mutual
def toJson : Clause → Json
  | .leaf connector query => .object (head query.kind connector ++ payload query)
  | .group connector clauses =>
    .object (head "nested" connector ++ [("clauses", .array (listToJson clauses))])
def listToJson : List Clause → List Json
  | [] => []
  | clause :: rest => toJson clause :: listToJson rest
end

def invalid {α : Type} (fault : ClauseFault) : Except Error α := .error (.invalidClause fault)

def kindOf (fields : List (String × Json)) : Except Error String :=
  match fields.lookup "kind" with
  | some (.string kind) => .ok kind
  | _ => invalid .missingKind

def connectorOf (fields : List (String × Json)) : Except Error Connector :=
  match fields.lookup "connector" with
  | none => .ok .must
  | some (.string name) =>
    match Connector.ofName? name with
    | some connector => .ok connector
    | none => invalid (.unknownConnector name)
  | some other => invalid (.connectorNotAString other)

def fieldOf (kind : String) (fields : List (String × Json)) : Except Error String :=
  match fields.lookup "field" with
  | some (.string field) => .ok field
  | _ => invalid (.missingField kind)

def valueOf (fields : List (String × Json)) : Json := (fields.lookup "value").getD .null

def setBounds (bounds : RangeBounds) : List (String × Json) → Except Error RangeBounds
  | [] => .ok bounds
  | (name, value) :: rest =>
    match BoundName.ofName? name with
    | some bound => setBounds (bounds.set bound value) rest
    | none => invalid (.unknownBound name)

def boundsOf (fields : List (String × Json)) : Except Error RangeBounds :=
  match fields.lookup "value" with
  | some (.object members) => do
    let bounds ← setBounds .none members
    if bounds.isEmpty then invalid .noBound else return bounds
  | _ => invalid .boundsNotAnObject

def leafOf (kind : String) (fields : List (String × Json)) : Except Error Leaf :=
  if kind = "term" then return .term (← fieldOf kind fields) (valueOf fields)
  else if kind = "match_phrase" then return .matchPhrase (← fieldOf kind fields) (valueOf fields)
  else if kind = "range" then do
    let field ← fieldOf kind fields
    return .range field (← boundsOf fields)
  else if kind = "exists" then return .present (← fieldOf kind fields)
  else if kind = "raw" then
    match fields.lookup "query" with
    | some body => .ok (.raw (.raw body))
    | none => invalid .missingQuery
  else .error (.unsupportedOperator kind)

mutual
def ofJson : Json → Except Error Clause
  | .object fields => do
    let kind ← kindOf fields
    let connector ← connectorOf fields
    if kind = "nested" then return .group connector (← childrenOf fields)
    else return .leaf connector (← leafOf kind fields)
  | _ => invalid .notAnObject
def childrenOf : List (String × Json) → Except Error (List Clause)
  | [] => invalid .missingClauses
  | (name, value) :: rest => if name = "clauses" then listOfJson value else childrenOf rest
def listOfJson : Json → Except Error (List Clause)
  | .array items => listOfItems items
  | _ => invalid .notAList
def listOfItems : List Json → Except Error (List Clause)
  | [] => .ok []
  | item :: rest => do
    let clause ← ofJson item
    let clauses ← listOfItems rest
    return clause :: clauses
end

theorem childrenOf_eq_lookup (fields : List (String × Json)) :
    childrenOf fields = match fields.lookup "clauses" with
      | some value => listOfJson value
      | none => invalid .missingClauses :=
  Json.first_eq_lookup rfl (fun _ _ _ => rfl) fields

theorem value_induction {motive : Json → Prop}
    (object : ∀ fields, (∀ items, fields.lookup "clauses" = some (.array items) →
      ∀ item ∈ items, motive item) → motive (.object fields))
    (other : ∀ value, (∀ fields, value ≠ .object fields) → motive value)
    (value : Json) : motive value := by
  -- An object hands on what is known of the array in it, so arrays carry their items along.
  suffices carried : motive value ∧ ∀ items, value = .array items → ∀ item ∈ items, motive item from
    carried.1
  induction value with
  | null | bool | number | string => exact ⟨other _ (by simp), by simp⟩
  | array items ih =>
    refine ⟨other _ (by simp), ?_⟩
    intro others same item member
    cases same
    exact (ih item member).1
  | object fields ih =>
    refine ⟨object fields ?_, by simp⟩
    intro items found item member
    exact (ih _ (Json.mem_of_lookup found)).2 items rfl item member

end Clause

def clausesToJson (clauses : List Clause) : Json := .array (Clause.listToJson clauses)

def clausesOfJson (value : Json) : Except Error (List Clause) := Clause.listOfJson value

end SearchQuery
