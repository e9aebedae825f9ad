import SearchQuery.Node

namespace SearchQuery

-- One constraint of a search. A leaf is a query of its own; a group is a list of constraints that
-- is compiled by itself and takes one place among its siblings.
inductive Leaf where
  | term (field : String) (value : Json)
  | range (field : String) (bounds : RangeBounds)
  | matchPhrase (field : String) (phrase : Json)
  | present (field : String)
  | raw (node : Node)

inductive Clause where
  | leaf (connector : Connector) (query : Leaf)
  | group (connector : Connector) (clauses : List Clause)

@[induction_eliminator]
theorem Clause.induction {motive : Clause → Prop}
    (leaf : ∀ connector query, motive (.leaf connector query))
    (group : ∀ connector clauses, (∀ clause ∈ clauses, motive clause) →
      motive (.group connector clauses))
    (clause : Clause) : motive clause := by
  refine @Clause.rec motive (fun clauses => ∀ clause ∈ clauses, motive clause)
    leaf group ?_ ?_ clause
  · intro clause member
    cases member
  · intro first rest holdsFirst holdsRest clause member
    rcases List.mem_cons.mp member with rfl | later
    · exact holdsFirst
    · exact holdsRest clause later

namespace Leaf

def kind : Leaf → String
  | .term _ _ => "term"
  | .range _ _ => "range"
  | .matchPhrase _ _ => "match_phrase"
  | .present _ => "exists"
  | .raw _ => "raw"

def field? : Leaf → Option String
  | .term field _ | .range field _ | .matchPhrase field _ | .present field => some field
  | .raw _ => none

def node : Leaf → Node
  | .term field value => .term field value
  | .range field bounds => .range field bounds
  | .matchPhrase field phrase => .matchPhrase field phrase
  | .present field => .present field
  | .raw node => node

end Leaf

namespace Clause

def term (field : String) (value : Json) : Clause := .leaf .must (.term field value)

def range (field : String) (bounds : RangeBounds) : Clause := .leaf .must (.range field bounds)

def matchPhrase (field : String) (phrase : Json) : Clause :=
  .leaf .must (.matchPhrase field phrase)

def present (field : String) : Clause := .leaf .must (.present field)

def nested (clauses : List Clause) : Clause := .group .must clauses

def raw (node : Node) : Clause := .leaf .must (.raw node)

def connector : Clause → Connector
  | .leaf connector _ => connector
  | .group connector _ => connector

def withConnector (connector : Connector) : Clause → Clause
  | .leaf _ query => .leaf connector query
  | .group _ clauses => .group connector clauses

def kind : Clause → String
  | .leaf _ query => query.kind
  | .group _ _ => "nested"

@[simp] theorem connector_withConnector (clause : Clause) (connector : Connector) :
    (clause.withConnector connector).connector = connector := by
  cases clause <;> rfl

mutual
def leaves : Clause → List Leaf
  | .leaf _ query => [query]
  | .group _ clauses => allLeaves clauses
def allLeaves : List Clause → List Leaf
  | [] => []
  | clause :: rest => leaves clause ++ allLeaves rest
end

theorem allLeaves_eq_flatMap (clauses : List Clause) :
    allLeaves clauses = clauses.flatMap leaves := by
  induction clauses with
  | nil => rfl
  | cons clause rest ih => simp [allLeaves, ih]

def field? : Clause → Option String
  | .leaf _ query => query.field?
  | .group _ _ => none

end Clause

end SearchQuery
