import SearchQuery.Json.Reader
import SearchQuery.Settings.Basic

namespace SearchQuery

-- Settings read from a text, which is judged in the order it is written: of an offence against the
-- grammar, a value of the wrong shape and a repeated key, the one that comes first is reported.

structure Settings.Draft where
  index : Option String
  docType : Option (Option String)
  perPage : Option Int
  pageName : Option String
  columns : Option (List String)

namespace Settings

def Draft.empty : Draft := ⟨none, none, none, none, none⟩

def Draft.complete (found : Draft) : Settings where
  index := found.index.getD default.index
  docType := found.docType.getD default.docType
  perPage := found.perPage.getD default.perPage
  pageName := found.pageName.getD default.pageName
  columns := found.columns.getD default.columns

def vacant {α : Type} (slot : Option α) : Except Defect Unit :=
  if slot.isSome then .error .mismatched else .ok ()

def Draft.take (found : Draft) (key : String) (value : Document) :
    Except Defect Draft := do
  if key = "index" then
    vacant found.index
    let index ← value.toText
    return { found with index := some index }
  else if key = "doc_type" then
    vacant found.docType
    let docType ← value.toOptionalText
    return { found with docType := some docType }
  else if key = "per_page" then
    vacant found.perPage
    let perPage ← value.toSigned
    return { found with perPage := some perPage }
  else if key = "page_name" then
    vacant found.pageName
    let pageName ← value.toText
    return { found with pageName := some pageName }
  else if key = "columns" then
    vacant found.columns
    let columns ← value.toTexts
    return { found with columns := some columns }
  else
    value.skip
    return found

def ended (stop : Option Stop) : Except Defect Unit :=
  match stop with
  | some stop => .error stop.wanted
  | none => .ok ()

def takeMembers (stop : Option Stop) (found : Draft) :
    List (Option String × Document) → Except Defect Draft
  | [] => do
    ended stop
    return found
  | (none, _) :: _ => .error .malformed
  | (some key, value) :: rest => do
    let found ← found.take key value
    takeMembers stop found rest

def takeItems (stop : Option Stop) (found : Draft) :
    List String → List Document → Except Defect Draft
  | _, [] => do
    ended stop
    return found
  | [], _ :: _ => .error .malformed
  | key :: keys, value :: rest => do
    let found ← found.take key value
    takeItems stop found keys rest

def ofDocument : Document → Except Defect Settings
  | .object members stop => (takeMembers stop .empty members).map Draft.complete
  | .array items stop => (takeItems stop .empty keys items).map Draft.complete
  | other => .error other.otherShape

def decode (text : String) : Except Defect Settings := do
  let (document, more) := Document.read text
  let settings ← ofDocument document
  if more then .error .malformed else return settings

def ofText (text : String) : Except Error Settings :=
  match decode text with
  | .ok settings => settings.validate
  | .error defect => .error (.undecodable defect)

def ofFile (path : String) (content : Except String String) : Except Error Settings :=
  match content with
  | .ok text => ofText text
  | .error reason => .error (.invalidArgument (.unreadableFile path reason))

end Settings

end SearchQuery
