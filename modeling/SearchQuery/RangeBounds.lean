import SearchQuery.Json.Value

namespace SearchQuery

-- The bounds of a range. A bound that is not set is never written, so an explicit null or zero
-- stays distinct from a missing one.
inductive BoundName where
  | gte
  | gt
  | lte
  | lt
  deriving DecidableEq

structure RangeBounds where
  gte : Option Json
  gt : Option Json
  lte : Option Json
  lt : Option Json

namespace BoundName

def ofName? (name : String) : Option BoundName :=
  if name = "gte" then some .gte
  else if name = "gt" then some .gt
  else if name = "lte" then some .lte
  else if name = "lt" then some .lt
  else none

end BoundName

namespace RangeBounds

def none : RangeBounds := ⟨.none, .none, .none, .none⟩

def between (low high : Json) : RangeBounds := { none with gte := low, lte := high }

def set (bounds : RangeBounds) (name : BoundName) (value : Json) : RangeBounds :=
  match name with
  | .gte => { bounds with gte := value }
  | .gt => { bounds with gt := value }
  | .lte => { bounds with lte := value }
  | .lt => { bounds with lt := value }

def isEmpty (bounds : RangeBounds) : Bool :=
  bounds.gte.isNone && bounds.gt.isNone && bounds.lte.isNone && bounds.lt.isNone

def layout (bounds : RangeBounds) : List (String × Option Json) :=
  [("gte", bounds.gte), ("gt", bounds.gt), ("lte", bounds.lte), ("lt", bounds.lt)]

def fields (bounds : RangeBounds) : List (String × Json) :=
  bounds.gte.toList.map (("gte", ·)) ++ bounds.gt.toList.map (("gt", ·)) ++
    bounds.lte.toList.map (("lte", ·)) ++ bounds.lt.toList.map (("lt", ·))

def toJson (bounds : RangeBounds) : Json := .object bounds.fields

theorem isEmpty_set (bounds : RangeBounds) (name : BoundName) (value : Json) :
    (bounds.set name value).isEmpty = false := by
  cases name <;> simp [set, isEmpty]

theorem isEmpty_between (low high : Json) : (between low high).isEmpty = false := by
  simp [between, isEmpty]

end RangeBounds

end SearchQuery
