import SearchQuery.Clause.Compile

namespace SearchQuery

-- What queries and clause lists mean, apart from how one becomes the other. Queries on a field, and
-- queries that are not modelled, are true or false as an assignment says; all else follows.
abbrev Assignment := Node → Bool

-- A bool query holds when all that must match does, nothing that must not does, and, if it only
-- offers alternatives, one of them does. Scoring has no part in whether a document matches.
mutual
def Node.holds (assignment : Assignment) : Node → Bool
  | .term field value => assignment (.term field value)
  | .range field bounds => assignment (.range field bounds)
  | .matchPhrase field phrase => assignment (.matchPhrase field phrase)
  | .present field => assignment (.present field)
  | .raw body => assignment (.raw body)
  | .bool must should mustNot =>
    Node.allHold assignment must && !Node.someHolds assignment mustNot &&
      (!must.isEmpty || should.isEmpty || Node.someHolds assignment should)
  | .functionScore none _ => true
  | .functionScore (some query) _ => Node.holds assignment query
def Node.allHold (assignment : Assignment) : List Node → Bool
  | [] => true
  | node :: rest => Node.holds assignment node && Node.allHold assignment rest
def Node.someHolds (assignment : Assignment) : List Node → Bool
  | [] => false
  | node :: rest => Node.holds assignment node || Node.someHolds assignment rest
end

theorem Node.allHold_eq_all (assignment : Assignment) (nodes : List Node) :
    Node.allHold assignment nodes = nodes.all (Node.holds assignment) := by
  induction nodes with
  | nil => rfl
  | cons node rest ih => simp [Node.allHold, ih]

theorem Node.someHolds_eq_any (assignment : Assignment) (nodes : List Node) :
    Node.someHolds assignment nodes = nodes.any (Node.holds assignment) := by
  induction nodes with
  | nil => rfl
  | cons node rest ih => simp [Node.someHolds, ih]

mutual
def Clause.hasLeaf : Clause → Bool
  | .leaf _ _ => true
  | .group _ clauses => Clause.someHasLeaf clauses
def Clause.someHasLeaf : List Clause → Bool
  | [] => false
  | clause :: rest => Clause.hasLeaf clause || Clause.someHasLeaf rest
end

-- What a list means by the truth of the clauses that count. Exactly one that must match, followed
-- by exactly one that may, is read as "first or second".
def verdict (truths : List (Connector × Bool)) : Bool :=
  match truths with
  | [(.must, first), (.should, second)] => first || second
  | _ =>
    let all (connector : Connector) (truth : Bool) : Bool :=
      truths.all fun part => part.1 ≠ connector || part.2 = truth
    let any (connector : Connector) : Bool := truths.any (·.1 = connector)
    all .must true && all .mustNot false &&
      (any .must || !any .should || truths.any fun part => part.1 = .should && part.2)

def Leaf.holds (assignment : Assignment) : Leaf → Bool
  | .term field value => assignment (.term field value)
  | .range field bounds => assignment (.range field bounds)
  | .matchPhrase field phrase => assignment (.matchPhrase field phrase)
  | .present field => assignment (.present field)
  | .raw node => node.holds assignment

mutual
def Clause.truth? (assignment : Assignment) : Clause → Option (Connector × Bool)
  | .leaf connector query => some (connector, query.holds assignment)
  | .group connector clauses =>
    if Clause.someHasLeaf clauses then
      some (connector, verdict (Clause.truths assignment clauses))
    else none
def Clause.truths (assignment : Assignment) : List Clause → List (Connector × Bool)
  | [] => []
  | clause :: rest => (Clause.truth? assignment clause).toList ++ Clause.truths assignment rest
end

def listHolds (assignment : Assignment) (clauses : List Clause) : Bool :=
  verdict (Clause.truths assignment clauses)

end SearchQuery
