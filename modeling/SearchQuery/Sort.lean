import SearchQuery.Json.Value

namespace SearchQuery

inductive SortDirection where
  | asc
  | desc
  deriving DecidableEq

structure SortField where
  field : String
  direction : SortDirection
  deriving DecidableEq

def lowerAscii (text : String) : String := String.ofList (text.toList.map Char.toLower)

namespace SortDirection

def name : SortDirection → String
  | .asc => "asc"
  | .desc => "desc"

-- Whatever is not `asc`, in any case of letters, sorts descending.
def ofText (text : String) : SortDirection :=
  if lowerAscii text = "asc" then .asc else .desc

theorem ofText_name (direction : SortDirection) : ofText direction.name = direction := by
  cases direction <;> decide +kernel

end SortDirection

def SortField.toJson (sort : SortField) : Json :=
  .object [(sort.field, .string sort.direction.name)]

end SearchQuery
