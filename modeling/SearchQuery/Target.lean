namespace SearchQuery

-- The index a search runs against, with an optional document type inside it.
structure Target where
  index : String
  docType : Option String
  deriving DecidableEq

def Target.path (target : Target) : String :=
  match target.docType with
  | some docType => target.index ++ "/" ++ docType
  | none => target.index

end SearchQuery
