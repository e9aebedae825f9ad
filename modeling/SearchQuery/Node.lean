import SearchQuery.Connector
import SearchQuery.RangeBounds
import SearchQuery.ScoreScript

namespace SearchQuery

-- Query trees. A node is never run here: it renders itself into the query language of the engine.
-- A raw node is a query that is not modelled and goes on the wire as it is.
inductive Node where
  | term (field : String) (value : Json)
  | range (field : String) (bounds : RangeBounds)
  | matchPhrase (field : String) (phrase : Json)
  | present (field : String)
  | raw (body : Json)
  | bool (must should mustNot : List Node)
  | functionScore (query : Option Node) (script : ScoreScript)

namespace Node

def type : Node → String
  | .term _ _ => "term"
  | .range _ _ => "range"
  | .matchPhrase _ _ => "match_phrase"
  | .present _ => "exists"
  | .raw _ => "raw"
  | .bool _ _ _ => "bool"
  | .functionScore _ _ => "function_score"

def emptyBool : Node := .bool [] [] []

def push (node : Node) (connector : Connector) (entry : Node) : Node :=
  match node, connector with
  | .bool must should mustNot, .must => .bool (must ++ [entry]) should mustNot
  | .bool must should mustNot, .should => .bool must (should ++ [entry]) mustNot
  | .bool must should mustNot, .mustNot => .bool must should (mustNot ++ [entry])
  | other, _ => other

def bucket (connector : Connector) (entries : List Json) : List (String × Json) :=
  if entries.isEmpty then [] else [(connector.name, .array entries)]

def scored (query : Option Json) (script : Json) : Json :=
  .object [("function_score", .object
    ((query.toList.map (("query", ·))) ++
      [("functions", .array [.object [("script_score", .object [("script", script)])]]),
        ("boost_mode", .string "replace")]))]

theorem scored_ne (query script : Json) : scored (some query) script ≠ query := by
  intro same
  have size := congrArg sizeOf same
  simp [scored] at size
  omega

mutual
def toJson : Node → Json
  | .term field value => .object [("term", .object [(field, value)])]
  | .range field bounds => .object [("range", .object [(field, bounds.toJson)])]
  | .matchPhrase field phrase => .object [("match_phrase", .object [(field, phrase)])]
  | .present field => .object [("exists", .object [("field", .string field)])]
  | .raw body => body
  | .bool must should mustNot => .object [("bool", .object
      (bucket .must (listToJson must) ++ bucket .should (listToJson should) ++
        bucket .mustNot (listToJson mustNot)))]
  | .functionScore none script => scored none script.toJson
  | .functionScore (some query) script => scored (some (toJson query)) script.toJson
def listToJson : List Node → List Json
  | [] => []
  | node :: rest => toJson node :: listToJson rest
end

theorem listToJson_eq_map (nodes : List Node) : listToJson nodes = nodes.map toJson := by
  induction nodes with
  | nil => rfl
  | cons node rest ih => simp [listToJson, ih]

end Node

end SearchQuery
