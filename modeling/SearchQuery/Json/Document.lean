import SearchQuery.Json.Value

namespace SearchQuery

-- What a JSON text holds as far as it can be read. Reading stops at the first offence against the
-- grammar, and a walker meets the mark of it after everything that was written before.

inductive Defect where
  | malformed
  | truncated
  | mismatched
  deriving DecidableEq

-- Where reading stopped, for a walker that wants the value there and for one that skips it. Only
-- the first looks into numbers and strings closely enough to tell a cut-off one apart.
structure Stop where
  wanted : Defect
  skipped : Defect
  deriving DecidableEq

def Stop.both (defect : Defect) : Stop := ⟨defect, defect⟩

-- A number or string that the grammar allows but that stands for no value is `none`.
inductive Document where
  | stopped (stop : Stop)
  | null
  | bool (value : Bool)
  | number (value : Option Number)
  | string (value : Option String)
  | array (items : List Document) (stop : Option Stop)
  | object (members : List (Option String × Document)) (stop : Option Stop)

namespace Document

-- The document as a value, with at most `depth` arrays and objects around any of its parts. A name
-- that comes twice keeps its first place and its last value.
mutual
def toJson (depth : Nat) : Document → Except Defect Json
  | .stopped stop => .error stop.wanted
  | .null => .ok .null
  | .bool value => .ok (.bool value)
  | .number (some value) => .ok (.number value)
  | .number none => .error .malformed
  | .string (some value) => .ok (.string value)
  | .string none => .error .malformed
  | .array items stop =>
    match depth with
    | 0 => .error .malformed
    | depth + 1 => (itemsToJson depth stop items).map .array
  | .object members stop =>
    match depth with
    | 0 => .error .malformed
    | depth + 1 => (membersToJson depth stop [] members).map .object
def itemsToJson (depth : Nat) (stop : Option Stop) : List Document → Except Defect (List Json)
  | [] => match stop with
    | some stop => .error stop.wanted
    | none => .ok []
  | item :: rest => do
    let value ← toJson depth item
    let values ← itemsToJson depth stop rest
    return value :: values
def membersToJson (depth : Nat) (stop : Option Stop) (before : List (String × Json)) :
    List (Option String × Document) → Except Defect (List (String × Json))
  | [] => match stop with
    | some stop => .error stop.wanted
    | none => .ok before
  | (none, _) :: _ => .error .malformed
  | (some name, item) :: rest => do
    let value ← toJson depth item
    membersToJson depth stop (Json.put before name value) rest
end

mutual
def skip : Document → Except Defect Unit
  | .stopped stop => .error stop.skipped
  | .array items stop => skipItems stop items
  | .object members stop => skipMembers stop members
  | _ => .ok ()
def skipItems (stop : Option Stop) : List Document → Except Defect Unit
  | [] => match stop with
    | some stop => .error stop.skipped
    | none => .ok ()
  | item :: rest => do
    skip item
    skipItems stop rest
def skipMembers (stop : Option Stop) : List (Option String × Document) → Except Defect Unit
  | [] => match stop with
    | some stop => .error stop.skipped
    | none => .ok ()
  | (_, item) :: rest => do
    skip item
    skipMembers stop rest
end

def otherShape : Document → Defect
  | .stopped stop => stop.wanted
  | .number none => .malformed
  | .string none => .malformed
  | _ => .mismatched

def toText : Document → Except Defect String
  | .string (some value) => .ok value
  | other => .error other.otherShape

def toOptionalText : Document → Except Defect (Option String)
  | .null => .ok none
  | other => other.toText.map some

def toSigned : Document → Except Defect Int
  | .number (some value) => match value.signed? with
    | some n => .ok n
    | none => .error .mismatched
  | other => .error other.otherShape

def toTexts : Document → Except Defect (List String)
  | .array items stop => do
    let texts ← items.mapM toText
    match stop with
    | some stop => .error stop.wanted
    | none => return texts
  | other => .error other.otherShape

end Document

end SearchQuery
