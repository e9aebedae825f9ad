import SearchQuery.Clause.Basic
import SearchQuery.Error
import SearchQuery.Sort

namespace SearchQuery

-- Operator tokens and the clauses they stand for. A token that is not an operator is taken to be
-- the value of an equality test, so that naming a field and a value is enough.
inductive Operator where
  | eq
  | notEq
  | lt
  | lte
  | gt
  | gte
  | text
  | range
  deriving DecidableEq

namespace Operator

def ofToken? (token : String) : Option Operator :=
  let token := lowerAscii token
  if token = "=" then some .eq
  else if token = "!=" ∨ token = "<>" then some .notEq
  else if token = "<" then some .lt
  else if token = "<=" then some .lte
  else if token = ">" then some .gt
  else if token = ">=" then some .gte
  else if token = "text" then some .text
  else if token = "range" then some .range
  else none

def token : Operator → String
  | .eq => "="
  | .notEq => "!="
  | .lt => "<"
  | .lte => "<="
  | .gt => ">"
  | .gte => ">="
  | .text => "text"
  | .range => "range"

def bound? : Operator → Option BoundName
  | .lt => some .lt
  | .lte => some .lte
  | .gt => some .gt
  | .gte => some .gte
  | .eq | .notEq | .text | .range => none

@[simp] theorem ofToken?_token (operator : Operator) : ofToken? operator.token = some operator := by
  cases operator <;> decide +kernel

end Operator

def boundPair : Json → Except Error (Json × Json)
  | .array [low, high] => .ok (low, high)
  | other => .error (.invalidArgument (.notAPair other))

namespace Clause

def equality (field : String) (value : Json) (connector : Connector) : Clause :=
  .leaf connector (.term field value)

def ofOperator (field : String) (operator : Operator) (value : Json) (connector : Connector) :
    Except Error Clause :=
  match operator with
  | .eq => .ok (equality field value connector)
  | .notEq => .ok (equality field value .mustNot)
  | .lt | .lte | .gt | .gte =>
    let bounds := match operator.bound? with
      | some bound => RangeBounds.none.set bound value
      | none => RangeBounds.none
    .ok (.leaf connector (.range field bounds))
  | .text => .ok (.leaf connector (.matchPhrase field value))
  | .range => do
    let (low, high) ← boundPair value
    return .leaf connector (.range field (.between low high))

def normalize (field token : String) (value : Option Json) (connector : Connector) :
    Except Error Clause :=
  match Operator.ofToken? token, value with
  | none, _ => .ok (equality field (.string token) connector)
  | some .eq, none => .ok (equality field .null connector)
  | some _, none => .error (.invalidArgument .missingValue)
  | some operator, some value => ofOperator field operator value connector

end Clause

end SearchQuery
