import SearchQuery.Json.Document

namespace SearchQuery

-- Reading JSON text into a document. Every function works on the characters that are left; the
-- rest it answers is what it did not use, and no rest means that reading stopped.
namespace Document.Reader

def isBlank (c : Char) : Bool := c = ' ' || c = '\n' || c = '\t' || c = '\r'

def skipBlanks (chars : List Char) : List Char := chars.dropWhile isBlank

def isDigit (c : Char) : Bool := '0' ≤ c && c ≤ '9'

def digitValue (c : Char) : Nat := c.toNat - '0'.toNat

def hexValue? (c : Char) : Option Nat :=
  if isDigit c then some (digitValue c)
  else if 'a' ≤ c ∧ c ≤ 'f' then some (c.toNat - 'a'.toNat + 10)
  else if 'A' ≤ c ∧ c ≤ 'F' then some (c.toNat - 'A'.toNat + 10)
  else none

def word (value : Document) : List Char → List Char → Document × Option (List Char)
  | [], chars => (value, some chars)
  | _ :: _, [] => (.stopped (.both .truncated), none)
  | expected :: more, c :: chars =>
    if c = expected then word value more chars else (.stopped (.both .malformed), none)

-- A number cut off at the end of the text is only noticed by a walker that wants it.
def cutNumber (chars : List Char) : Stop :=
  match chars with
  | [] => ⟨.truncated, .malformed⟩
  | _ => .both .malformed

def digits (chars : List Char) : List Nat × List Char :=
  ((chars.takeWhile isDigit).map digitValue, chars.dropWhile isDigit)

def wholePart (chars : List Char) : Except Stop (List Nat × List Char) :=
  match chars with
  | '0' :: rest =>
    if (rest.takeWhile isDigit).isEmpty then .ok ([0], rest) else .error (.both .malformed)
  | _ =>
    let (whole, rest) := digits chars
    if whole.isEmpty then .error (cutNumber chars) else .ok (whole, rest)

def fractionPart (chars : List Char) : Except Stop (Option (List Nat) × List Char) :=
  match chars with
  | '.' :: rest =>
    let (fraction, after) := digits rest
    if fraction.isEmpty then .error (cutNumber rest) else .ok (some fraction, after)
  | _ => .ok (none, chars)

def exponentDigits (negative : Bool) (chars : List Char) :
    Except Stop (Option Int × List Char) :=
  let (digits, after) := digits chars
  if digits.isEmpty then .error (cutNumber chars)
  else
    let size := digits.foldl (fun (n : Nat) digit => n * 10 + digit) 0
    .ok (some (if negative then -(size : Int) else size), after)

def exponentPart (chars : List Char) : Except Stop (Option Int × List Char) :=
  match chars with
  | c :: rest =>
    if c = 'e' ∨ c = 'E' then
      match rest with
      | '+' :: more => exponentDigits false more
      | '-' :: more => exponentDigits true more
      | _ => exponentDigits false rest
    else .ok (none, chars)
  | [] => .ok (none, chars)

def literal (negative : Bool) (chars : List Char) : Except Stop (Literal × List Char) := do
  let (whole, chars) ← wholePart chars
  let (fraction, chars) ← fractionPart chars
  let (exponent, chars) ← exponentPart chars
  return (⟨negative, whole, fraction, exponent⟩, chars)

def number (negative : Bool) (chars : List Char) : Document × Option (List Char) :=
  match literal negative chars with
  | .ok (literal, rest) => (.number literal.number?, some rest)
  | .error stop => (.stopped stop, none)

-- A string after its opening quote: its text for a walker that wants it, and what follows it for
-- every walker. A text fault alone does not stop the one that skips.
structure Scan where
  text : Except Defect (List Char)
  rest : Except Defect (List Char)

namespace Scan

def fail (defect : Defect) : Scan := ⟨.error defect, .error defect⟩

def push (c : Char) (scan : Scan) : Scan := { scan with text := scan.text.map (c :: ·) }

def noText (scan : Scan) : Scan := { scan with text := .error .malformed }

end Scan

def simpleEscape? (c : Char) : Option Char :=
  match c with
  | '"' => some '"'
  | '\\' => some '\\'
  | '/' => some '/'
  | 'b' => some '\x08'
  | 'f' => some '\x0c'
  | 'n' => some '\n'
  | 'r' => some '\r'
  | 't' => some '\t'
  | _ => none

def unitDefect (chars : List Char) : Defect :=
  if chars.foldl (fun n c => n + c.utf8Size) 0 < 4 then .truncated else .malformed

def codeUnit? (a b c d : Char) : Option Nat := do
  let a ← hexValue? a
  let b ← hexValue? b
  let c ← hexValue? c
  let d ← hexValue? d
  return ((a * 16 + b) * 16 + c) * 16 + d

def isLead (unit : Nat) : Bool := 0xD800 ≤ unit && unit ≤ 0xDBFF

def isTrail (unit : Nat) : Bool := 0xDC00 ≤ unit && unit ≤ 0xDFFF

def paired (lead trail : Nat) : Char :=
  Char.ofNat (0x10000 + (lead - 0xD800) * 0x400 + (trail - 0xDC00))

-- `lead` is a leading surrogate that still needs its other half.
def scan (lead : Option Nat) : List Char → Scan
  | [] => .fail .truncated
  | '"' :: rest =>
    match lead with
    | none => ⟨.ok [], .ok rest⟩
    | some _ => ⟨.error .malformed, .ok rest⟩
  | '\\' :: 'u' :: a :: b :: c :: d :: rest =>
    match codeUnit? a b c d, lead with
    | none, _ => .fail .malformed
    | some unit, none =>
      if isLead unit then scan (some unit) rest
      else if isTrail unit then (scan none rest).noText
      else (scan none rest).push (Char.ofNat unit)
    | some unit, some first =>
      if isTrail unit then (scan none rest).push (paired first unit)
      else (scan none rest).noText
  | '\\' :: 'u' :: few => .fail (unitDefect few)
  | ['\\'] => .fail .truncated
  | '\\' :: c :: rest =>
    match simpleEscape? c, lead with
    | none, _ => .fail .malformed
    | some escaped, none => (scan none rest).push escaped
    | some _, some _ => (scan none rest).noText
  | c :: rest =>
    if c.toNat < 32 then .fail .malformed
    else match lead with
      | none => (scan none rest).push c
      | some _ => (scan none rest).noText

def quoted (chars : List Char) : Except Stop (Option String × List Char) :=
  match scan none chars with
  | ⟨text, .ok rest⟩ => .ok (text.toOption.map String.ofList, rest)
  | ⟨.error wanted, .error skipped⟩ => .error ⟨wanted, skipped⟩
  | ⟨.ok _, .error skipped⟩ => .error (.both skipped)

-- Each level of fuel stands for a value or for a place between two values.
mutual
def value : Nat → List Char → Document × Option (List Char)
  | 0, _ => (.stopped (.both .truncated), none)
  | fuel + 1, chars =>
    match skipBlanks chars with
    | [] => (.stopped (.both .truncated), none)
    | 'n' :: rest => word .null ['u', 'l', 'l'] rest
    | 't' :: rest => word (.bool true) ['r', 'u', 'e'] rest
    | 'f' :: rest => word (.bool false) ['a', 'l', 's', 'e'] rest
    | '"' :: rest =>
      match quoted rest with
      | .ok (text, rest) => (.string text, some rest)
      | .error stop => (.stopped stop, none)
    | '[' :: rest =>
      let (items, stop, rest) := items fuel true rest
      (.array items stop, rest)
    | '\x7b' :: rest =>
      let (members, stop, rest) := members fuel true rest
      (.object members stop, rest)
    | '-' :: rest => number true rest
    | c :: rest =>
      if isDigit c then number false (c :: rest) else (.stopped (.both .malformed), none)
def items : Nat → Bool → List Char → List Document × Option Stop × Option (List Char)
  | 0, _, _ => ([], some (.both .truncated), none)
  | fuel + 1, first, chars =>
    match skipBlanks chars with
    | [] => ([], some (.both .truncated), none)
    | ']' :: rest => ([], none, some rest)
    | c :: rest =>
      if first then item fuel (c :: rest)
      else if c = ',' then
        match skipBlanks rest with
        | ']' :: _ => ([], some (.both .malformed), none)
        | more => item fuel more
      else ([], some (.both .malformed), none)
def item (fuel : Nat) (chars : List Char) :
    List Document × Option Stop × Option (List Char) :=
  match value fuel chars with
  | (document, none) => ([document], none, none)
  | (document, some rest) =>
    let (documents, stop, rest) := items fuel false rest
    (document :: documents, stop, rest)
def members : Nat → Bool → List Char →
    List (Option String × Document) × Option Stop × Option (List Char)
  | 0, _, _ => ([], some (.both .truncated), none)
  | fuel + 1, first, chars =>
    match skipBlanks chars with
    | [] => ([], some (.both .truncated), none)
    | '\x7d' :: rest => ([], none, some rest)
    | c :: rest =>
      if first then member fuel (c :: rest)
      else if c = ',' then member fuel (skipBlanks rest)
      else ([], some (.both .malformed), none)
def member (fuel : Nat) (chars : List Char) :
    List (Option String × Document) × Option Stop × Option (List Char) :=
  match chars with
  | [] => ([], some (.both .truncated), none)
  | '"' :: rest =>
    match quoted rest with
    | .error stop => ([], some stop, none)
    | .ok (name, rest) =>
      match skipBlanks rest with
      | [] => ([(name, .stopped (.both .truncated))], none, none)
      | ':' :: rest =>
        match value fuel rest with
        | (document, none) => ([(name, document)], none, none)
        | (document, some rest) =>
          let (documents, stop, rest) := members fuel false rest
          ((name, document) :: documents, stop, rest)
      | _ => ([(name, .stopped (.both .malformed))], none, none)
  | _ => ([], some (.both .malformed), none)
end

end Document.Reader

def Document.read (text : String) : Document × Bool :=
  let chars := text.toList
  match Reader.value (2 * chars.length + 2) chars with
  | (document, none) => (document, false)
  | (document, some rest) => (document, !(Reader.skipBlanks rest).isEmpty)

def Json.read (depth : Nat) (text : String) : Except Defect Json := do
  let (document, more) := Document.read text
  let value ← document.toJson depth
  if more then .error .malformed else return value

end SearchQuery
