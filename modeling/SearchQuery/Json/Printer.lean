import SearchQuery.Json.Value
import SearchQuery.Number.Layout

namespace SearchQuery

-- JSON text, compact as it goes on the wire and indented for reading. Only the quote, the
-- backslash and the control characters below a space are escaped.
namespace Json

def hexDigit (n : Nat) : Char := Nat.digitChar n

def escape (c : Char) : List Char :=
  if c = '"' then ['\\', '"']
  else if c = '\\' then ['\\', '\\']
  else if c = '\x08' then ['\\', 'b']
  else if c = '\x0c' then ['\\', 'f']
  else if c = '\n' then ['\\', 'n']
  else if c = '\r' then ['\\', 'r']
  else if c = '\t' then ['\\', 't']
  else if c.toNat < 32 then
    ['\\', 'u', '0', '0', hexDigit (c.toNat / 16), hexDigit (c.toNat % 16)]
  else [c]

def quote (text : String) : List Char := '"' :: (text.toList.flatMap escape ++ ['"'])

def nullText : List Char := ['n', 'u', 'l', 'l']

def numberText (value : Number) : List Char := value.digits?.getD nullText

def boolText (value : Bool) : List Char :=
  if value then ['t', 'r', 'u', 'e'] else ['f', 'a', 'l', 's', 'e']

mutual
def compact : Json → List Char
  | .null => nullText
  | .bool value => boolText value
  | .number value => numberText value
  | .string value => quote value
  | .array [] => ['[', ']']
  | .array (item :: rest) => '[' :: (compact item ++ compactItems rest)
  | .object [] => ['\x7b', '\x7d']
  | .object ((name, value) :: rest) =>
    '\x7b' :: (quote name ++ ':' :: (compact value ++ compactFields rest))
def compactItems : List Json → List Char
  | [] => [']']
  | item :: rest => ',' :: (compact item ++ compactItems rest)
def compactFields : List (String × Json) → List Char
  | [] => ['\x7d']
  | (name, value) :: rest =>
    ',' :: (quote name ++ ':' :: (compact value ++ compactFields rest))
end

def newline (depth : Nat) : List Char := '\n' :: List.replicate (2 * depth) ' '

mutual
def indented (depth : Nat) : Json → List Char
  | .null => nullText
  | .bool value => boolText value
  | .number value => numberText value
  | .string value => quote value
  | .array [] => ['[', ']']
  | .array (item :: rest) =>
    '[' :: (newline (depth + 1) ++ (indented (depth + 1) item ++ indentedItems depth rest))
  | .object [] => ['\x7b', '\x7d']
  | .object ((name, value) :: rest) =>
    '\x7b' :: (newline (depth + 1) ++ (quote name ++ ':' :: ' ' ::
      (indented (depth + 1) value ++ indentedFields depth rest)))
def indentedItems (depth : Nat) : List Json → List Char
  | [] => newline depth ++ [']']
  | item :: rest =>
    ',' :: (newline (depth + 1) ++ (indented (depth + 1) item ++ indentedItems depth rest))
def indentedFields (depth : Nat) : List (String × Json) → List Char
  | [] => newline depth ++ ['\x7d']
  | (name, value) :: rest =>
    ',' :: (newline (depth + 1) ++ (quote name ++ ':' :: ' ' ::
      (indented (depth + 1) value ++ indentedFields depth rest)))
end

def text (value : Json) : String := String.ofList value.compact

def pretty (value : Json) : String := String.ofList (value.indented 0)

end Json

end SearchQuery
