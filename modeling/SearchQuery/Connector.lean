namespace SearchQuery

-- How a clause combines with its siblings: it has to match, it is one of several of which one has
-- to match, or it has to fail.
inductive Connector where
  | must
  | should
  | mustNot
  deriving DecidableEq

namespace Connector

def name : Connector → String
  | .must => "must"
  | .should => "should"
  | .mustNot => "must_not"

def ofName? (name : String) : Option Connector :=
  if name = "must" then some .must
  else if name = "should" then some .should
  else if name = "must_not" then some .mustNot
  else none

theorem ofName?_name (connector : Connector) : ofName? connector.name = some connector := by
  cases connector <;> rfl

end Connector

end SearchQuery
