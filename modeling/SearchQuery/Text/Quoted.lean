import SearchQuery.Text.Graphic

namespace SearchQuery

-- Quoted text for a reader: what would not show is written by its code point.

def hexText (n : Nat) : String := String.ofList (Nat.toDigits 16 n)

def quotedChar (c : Char) : String :=
  if c = '\x00' then "\\0"
  else if c = '\t' then "\\t"
  else if c = '\r' then "\\r"
  else if c = '\n' then "\\n"
  else if c = '"' then "\\\""
  else if c = '\\' then "\\\\"
  else if isGraphic c then String.singleton c
  else "\\u\x7b" ++ hexText c.toNat ++ "\x7d"

def quotedText (text : String) : String :=
  "\"" ++ String.join (text.toList.map quotedChar) ++ "\""

end SearchQuery
