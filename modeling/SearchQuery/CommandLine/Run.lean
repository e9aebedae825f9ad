import SearchQuery.Builder.Basic
import SearchQuery.CommandLine.Options
import SearchQuery.Json.Reader
import SearchQuery.Settings.Reader

namespace SearchQuery

inductive CommandFailure where
  | failed (error : Error)
  | unreadableInput
  | unreadableClauses (path : String)
  | unparsableClauses

def CommandFailure.message : CommandFailure → String
  | .failed error => error.message
  | .unreadableInput => "reading clause list from stdin"
  | .unreadableClauses path => "reading clause list " ++ path
  | .unparsableClauses => "parsing clause list"

namespace Options

def nestingLimit : Nat := 127

def resolve (options : Options) (settings : Settings) : Settings :=
  { settings with
    index := options.index.getD settings.index
    perPage := options.perPage.getD settings.perPage }

def sortKey (key : String) : String × String :=
  match key.toList.dropWhile (· ≠ ':') with
  | [] => (key, "asc")
  | _ :: direction =>
    (String.ofList (key.toList.takeWhile (· ≠ ':')), String.ofList direction)

def builder (options : Options) (settings : Settings) (clauses : List Clause) : Builder :=
  let filtered := clauses.foldl Builder.addClause (.ofSettings settings)
  let sorted := options.orderBy.foldl
    (fun b key => b.orderBy (sortKey key).1 (sortKey key).2) filtered
  let scored := match options.scriptScore with
    | some source => sorted.setScriptScore (.expression source)
    | none => sorted
  match options.page with
  | some page => scored.forPage page settings.perPage
  | none => scored

def body (options : Options) (settings : Settings) (clauses : List Clause) : Json :=
  let request := (options.builder settings clauses).toRequest (.fields settings.columns)
  if options.count then request.countJson else request.toJson

def fileSettings (options : Options) (file : String → Except String String) :
    Except Error Settings :=
  match options.settings with
  | some path => Settings.ofFile path (file path)
  | none => .ok Settings.default

def clauseText (options : Options) (file : String → Except String String)
    (input : Except String String) : Except CommandFailure String :=
  match options.clauses.getD "-" with
  | "-" => input.mapError fun _ => .unreadableInput
  | path => (file path).mapError fun _ => .unreadableClauses path

def readClauses (text : String) : Except CommandFailure (List Clause) := do
  let value ← (Json.read nestingLimit text).mapError fun _ => .unparsableClauses
  (clausesOfJson value).mapError .failed

-- The body that the command prints, settings being judged before clauses. Files and the input are
-- given by their text or the reason why they cannot be read.
def run (options : Options) (file : String → Except String String)
    (input : Except String String) : Except CommandFailure Json := do
  let settings ← (options.fileSettings file).mapError .failed
  let text ← options.clauseText file input
  let clauses ← readClauses text
  return options.body (options.resolve settings) clauses

def render (options : Options) (body : Json) : String :=
  (if options.pretty then body.pretty else body.text) ++ "\n"

end Options

end SearchQuery
