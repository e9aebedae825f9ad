import SearchQuery.Json.Value

namespace SearchQuery

-- A script whose result replaces the relevance of a match.
structure ScoreScript where
  source : String
  lang : Option String
  params : List (String × Json)

namespace ScoreScript

def ofSource (source : String) : ScoreScript := ⟨source, none, []⟩

def withLang (script : ScoreScript) (lang : String) : ScoreScript := { script with lang }

def expression (source : String) : ScoreScript := (ofSource source).withLang "expression"

def withParam (script : ScoreScript) (name : String) (value : Json) : ScoreScript :=
  { script with params := Json.put script.params name value }

def toJson (script : ScoreScript) : Json :=
  .object (("source", .string script.source) ::
    (script.lang.toList.map fun lang => ("lang", .string lang)) ++
    (if script.params.isEmpty then [] else [("params", .object script.params)]))

end ScoreScript

end SearchQuery
