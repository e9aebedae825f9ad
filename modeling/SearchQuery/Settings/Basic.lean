import SearchQuery.Error
import SearchQuery.Json.Shape
import SearchQuery.Target
import SearchQuery.Text.Blank

namespace SearchQuery

-- Settings of one searchable kind of record: where it is indexed and how its results are paged.
structure Settings where
  index : String
  docType : Option String
  perPage : Int
  pageName : String
  columns : List String
  deriving DecidableEq

def defaultDocType : String := "_doc"

def defaultPerPage : Int := 15

def defaultPageName : String := "page"

def defaultColumns : List String := ["*"]

namespace Settings

def default : Settings :=
  ⟨"default", some defaultDocType, defaultPerPage, defaultPageName, defaultColumns⟩

def ofIndex (index : String) : Settings := { default with index }

def target (settings : Settings) : Target := ⟨settings.index, settings.docType⟩

def validate (settings : Settings) : Except Error Settings :=
  if isBlankText settings.index then .error (.invalidArgument .blankIndex)
  else if settings.perPage ≤ 0 then .error (.invalidArgument (.pageSize settings.perPage))
  else .ok settings

def keys : List String := ["index", "doc_type", "per_page", "page_name", "columns"]

def optionalText (text : Option String) : Json :=
  match text with
  | some text => .string text
  | none => .null

def toJson (settings : Settings) : Json :=
  .object [("index", .string settings.index), ("doc_type", optionalText settings.docType),
    ("per_page", .int settings.perPage), ("page_name", .string settings.pageName),
    ("columns", .strings settings.columns)]

def ofJson? (value : Json) : Option Settings := do
  match ← value.slots keys with
  | [index, docType, perPage, pageName, columns] =>
    return {
      index := ← index.withDefault default.index Json.string?
      docType := ← docType.withDefault default.docType (Json.nullable Json.string?)
      perPage := ← perPage.withDefault default.perPage Json.signed?
      pageName := ← pageName.withDefault default.pageName Json.string?
      columns := ← columns.withDefault default.columns Json.strings? }
  | _ => none

end Settings

end SearchQuery
