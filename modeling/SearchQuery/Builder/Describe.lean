import SearchQuery.Builder.Basic
import SearchQuery.Text.Quoted

namespace SearchQuery

namespace Describe

def commas (parts : List String) : String := ", ".intercalate parts

def record (name : String) (fields : List (String × String)) : String :=
  name ++ " \x7b " ++ commas (fields.map fun (field, text) => field ++ ": " ++ text) ++ " \x7d"

def wrapped (name text : String) : String := name ++ "(" ++ text ++ ")"

def list (items : List String) : String := "[" ++ commas items ++ "]"

def braced (items : List String) : String := "\x7b" ++ commas items ++ "\x7d"

def option {α : Type} (describe : α → String) : Option α → String
  | some value => wrapped "Some" (describe value)
  | none => "None"

def nat (n : Nat) : String := String.ofList (natDigits n)

def int (n : Int) : String := String.ofList (intDigits n)

def bool (value : Bool) : String := if value then "true" else "false"

def texts (values : List String) : String := list (values.map quotedText)

mutual
def json : Json → String
  | .null => "Null"
  | .bool value => wrapped "Bool" (bool value)
  | .number value => wrapped "Number" (String.ofList (Json.numberText value))
  | .string value => wrapped "String" (quotedText value)
  | .array items => "Array " ++ list (jsons items)
  | .object fields => "Object " ++ braced (jsonFields fields)
def jsons : List Json → List String
  | [] => []
  | item :: rest => json item :: jsons rest
def jsonFields : List (String × Json) → List String
  | [] => []
  | (name, value) :: rest => (quotedText name ++ ": " ++ json value) :: jsonFields rest
end

def bounds (range : RangeBounds) : String :=
  record "RangeBounds" [("gte", option json range.gte), ("gt", option json range.gt),
    ("lte", option json range.lte), ("lt", option json range.lt)]

def script (script : ScoreScript) : String :=
  record "ScoreScript" [("source", quotedText script.source),
    ("lang", option quotedText script.lang), ("params", braced (jsonFields script.params))]

def scored (query : Option String) (scoring : ScoreScript) : String :=
  record "FunctionScoreQuery" [("query", option id query), ("script", script scoring)]

mutual
def node : Node → String
  | .term field value => record "TermQuery" [("field", quotedText field), ("value", json value)]
  | .range field range =>
    record "RangeQuery" [("field", quotedText field), ("bounds", bounds range)]
  | .matchPhrase field phrase =>
    record "PhraseQuery" [("field", quotedText field), ("phrase", json phrase)]
  | .present field => record "ExistsQuery" [("field", quotedText field)]
  | .raw body => record "RawQuery" [("body", json body)]
  | .bool must should mustNot =>
    record "BoolQuery" [("must", list (nodes must)), ("should", list (nodes should)),
      ("must_not", list (nodes mustNot))]
  | .functionScore none scoring => scored none scoring
  | .functionScore (some query) scoring => scored (some (node query)) scoring
def nodes : List Node → List String
  | [] => []
  | entry :: rest => node entry :: nodes rest
end

def connector : Connector → String
  | .must => "Must"
  | .should => "Should"
  | .mustNot => "MustNot"

def leaf : Leaf → String
  | .term field value => record "Term" [("field", quotedText field), ("value", json value)]
  | .range field range => record "Range" [("field", quotedText field), ("bounds", bounds range)]
  | .matchPhrase field phrase =>
    record "MatchPhrase" [("field", quotedText field), ("value", json phrase)]
  | .present field => record "Exists" [("field", quotedText field)]
  | .raw query => wrapped "Raw" (node query)

def clauseOf (joined : Connector) (kind : String) : String :=
  record "Clause" [("connector", connector joined), ("kind", kind)]

mutual
def clause : Clause → String
  | .leaf joined query => clauseOf joined (leaf query)
  | .group joined group => clauseOf joined (wrapped "Nested" (list (clauses group)))
def clauses : List Clause → List String
  | [] => []
  | first :: rest => clause first :: clauses rest
end

def direction : SortDirection → String
  | .asc => "Asc"
  | .desc => "Desc"

def sort (sort : SortField) : String :=
  record "SortField" [("field", quotedText sort.field), ("direction", direction sort.direction)]

def target (target : Target) : String :=
  record "IndexTarget" [("index", quotedText target.index),
    ("doc_type", option quotedText target.docType)]

def registry (scopes : Registry) : String := braced (scopes.names.map quotedText)

end Describe

def Registry.describe (registry : Registry) : String := Describe.registry registry

def Builder.describe (builder : Builder) : String :=
  Describe.record "SearchBuilder" [("target", Describe.target builder.target),
    ("scopes", Describe.registry builder.scopes),
    ("wheres", Describe.list (Describe.clauses builder.clauses)),
    ("orders", Describe.list (builder.orders.map Describe.sort)),
    ("script", Describe.option Describe.script builder.script),
    ("limit", Describe.option Describe.nat builder.limit),
    ("offset", Describe.option Describe.nat builder.offset),
    ("id_resolver", Describe.bool builder.idResolver.isSome),
    ("per_page", Describe.int builder.perPage),
    ("page_name", quotedText builder.pageName),
    ("columns", Describe.texts builder.columns)]

end SearchQuery
