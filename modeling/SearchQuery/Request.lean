import SearchQuery.Node
import SearchQuery.Sort

namespace SearchQuery

-- What a transport needs besides the index: the query, its order, the window of hits and the
-- stored fields that come back with each hit.
inductive SourceFilter where
  | disabled
  | fields (names : List String)
  deriving DecidableEq

structure Request where
  query : Option Node
  sort : List SortField
  offset : Option Nat
  limit : Option Nat
  source : SourceFilter

namespace SourceFilter

def all : SourceFilter := .fields ["*"]

def toJson : SourceFilter → Json
  | .disabled => .bool false
  | .fields names => .strings names

end SourceFilter

namespace Request

def everything : Request := ⟨none, [], none, none, .all⟩

def queryFields (request : Request) : List (String × Json) :=
  request.query.toList.map fun query => ("query", query.toJson)

def sortFields (request : Request) : List (String × Json) :=
  if request.sort.isEmpty then [] else [("sort", .array (request.sort.map SortField.toJson))]

def offsetFields (request : Request) : List (String × Json) :=
  match request.offset with
  | some offset => if 0 < offset then [("from", .nat offset)] else []
  | none => []

def limitFields (request : Request) : List (String × Json) :=
  request.limit.toList.map fun limit => ("size", .nat limit)

def toJson (request : Request) : Json :=
  .object (request.queryFields ++ request.sortFields ++ request.offsetFields ++
    request.limitFields ++ [("_source", request.source.toJson)])

def countJson (request : Request) : Json := .object request.queryFields

end Request

end SearchQuery
