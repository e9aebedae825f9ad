import SearchQuery.Json.Document
import SearchQuery.Json.Printer

namespace SearchQuery

-- Why a search could not be built or run. The wording is in one place; the constructors say what
-- was wrong.

inductive ArgumentFault where
  | missingValue
  | notAPair (got : Json)
  | pageSize (got : Int)
  | blankIndex
  | missingArguments (needed : Nat)
  | unreadableFile (path reason : String)

inductive ClauseFault where
  | notAList
  | notAnObject
  | missingKind
  | unknownConnector (name : String)
  | connectorNotAString (got : Json)
  | missingField (kind : String)
  | boundsNotAnObject
  | unknownBound (name : String)
  | noBound
  | missingClauses
  | missingQuery

inductive Error where
  | invalidArgument (fault : ArgumentFault)
  | unsupportedOperator (kind : String)
  | unknownOperation (name : String)
  | invalidClause (fault : ClauseFault)
  | transport (reason : String)
  | recordStore (reason : String)
  | undecodable (defect : Defect)

def ArgumentFault.message : ArgumentFault → String
  | .missingValue => "Value must be provided."
  | .notAPair got => "range needs a [low, high] pair, got " ++ got.text
  | .pageSize got => "per_page must be positive, got " ++ String.ofList (intDigits got)
  | .blankIndex => "index name must not be empty"
  | .missingArguments needed =>
    "scope needs " ++ String.ofList (natDigits needed) ++ " arguments"
  | .unreadableFile path reason => "cannot read " ++ path ++ ": " ++ reason

def ClauseFault.message : ClauseFault → String
  | .notAList => "clause list must be a JSON array"
  | .notAnObject => "clause must be a JSON object"
  | .missingKind => "clause is missing 'kind'"
  | .unknownConnector name => "unknown connector '" ++ name ++ "'"
  | .connectorNotAString got => "connector must be a string, got " ++ got.text
  | .missingField kind => kind ++ " clause is missing 'field'"
  | .boundsNotAnObject => "range clause needs an object of bounds"
  | .unknownBound name => "unknown range bound '" ++ name ++ "'"
  | .noBound => "range clause needs at least one bound"
  | .missingClauses => "nested clause is missing 'clauses'"
  | .missingQuery => "raw clause is missing 'query'"

namespace Error

-- A text that cannot be decoded is reported by its class alone.
def message : Error → String
  | .invalidArgument fault => "Invalid argument: " ++ fault.message
  | .unsupportedOperator kind => "Unsupported operator: " ++ kind
  | .unknownOperation name => "Call to undefined search scope: " ++ name ++ "()"
  | .invalidClause fault => "Invalid clause: " ++ fault.message
  | .transport reason => "Transport error: " ++ reason
  | .recordStore reason => "Record store error: " ++ reason
  | .undecodable _ => "Serialization error"

def isCaller : Error → Bool
  | .invalidArgument _ | .unsupportedOperator _ | .unknownOperation _ | .invalidClause _ => true
  | .transport _ | .recordStore _ | .undecodable _ => false

end Error

theorem bind_eq_ok_iff {ε α β : Type} {first : Except ε α} {next : α → Except ε β} {answer : β} :
    first >>= next = .ok answer ↔ ∃ value, first = .ok value ∧ next value = .ok answer := by
  cases first <;> simp [bind, Except.bind]

theorem map_eq_error_iff {ε α β : Type} {result : Except ε α} {make : α → β} {reason : ε} :
    result.map make = .error reason ↔ result = .error reason := by
  cases result <;> simp [Except.map]

theorem mapError_eq_ok_iff {ε δ α : Type} {result : Except ε α} {wrap : ε → δ} {answer : α} :
    result.mapError wrap = .ok answer ↔ result = .ok answer := by
  cases result with
  | ok value =>
    constructor
    · intro same
      exact congrArg _ (Except.ok.inj same)
    · intro same
      exact congrArg _ (Except.ok.inj same)
  | error reason => exact iff_of_false nofun nofun

end SearchQuery
