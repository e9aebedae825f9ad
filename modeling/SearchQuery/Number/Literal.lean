import SearchQuery.Number.Binary

namespace SearchQuery

-- A decimal literal and the number it stands for. A literal that is no integer of 64 bits is scaled
-- by a rounded power of ten, so it may differ from the nearest double in the last bit.
structure Literal where
  negative : Bool
  whole : List Nat
  fraction : Option (List Nat)
  exponent : Option Int
  deriving DecidableEq

-- An integer keeps all its digits; a double is the literal's value in binary; a single is a
-- double that a field of 32 bits holds and that prints with the digits of that width.
inductive Number where
  | integer (value : Int)
  | double (value : Binary .double)
  | single (value : Binary .single)
  deriving DecidableEq

namespace Number

def greatestWord : Nat := 18446744073709551615

def greatestSigned : Int := 9223372036854775807

def leastSigned : Int := -9223372036854775808

def word? : Number → Option Nat
  | .integer value => if 0 ≤ value ∧ value ≤ greatestWord then some value.toNat else none
  | _ => none

def signed? : Number → Option Int
  | .integer value => if leastSigned ≤ value ∧ value ≤ greatestSigned then some value else none
  | _ => none

def toSingle : Number → Binary .single
  | .integer value => .ofRatio .single (decide (value < 0)) value.natAbs 1
  | .double value => value.convert .single
  | .single value => value

end Number

namespace Literal

def gather (word : Nat) : List Nat → Nat × Nat
  | [] => (word, 0)
  | digit :: rest =>
    if word * 10 + digit ≤ Number.greatestWord then gather (word * 10 + digit) rest
    else (word, rest.length + 1)

def reach : Nat := 308

def scaleDown (value : Binary .double) (places : Nat) : Binary .double :=
  if places ≤ reach then value.overTen places
  else if value.isZero then value
  else scaleDown (value.overTen reach) (places - reach)
termination_by places
decreasing_by simp only [reach] at *; omega

def scale (word : Nat) (exponent : Int) : Option (Binary .double) :=
  let start := Binary.ofNat .double word
  match exponent with
  | .negSucc before => some (scaleDown start (before + 1))
  | .ofNat places =>
    if start.isZero then some start
    else if reach < places then none
    else match start.timesTen places with
      | .finite negative units => some (.finite negative units)
      | .infinite _ => none

def number? (literal : Literal) : Option Number :=
  let (word, beyond) := gather 0 literal.whole
  match literal.fraction, literal.exponent with
  | none, none =>
    if beyond = 0 ∧ ¬literal.negative then some (.integer word)
    else if beyond = 0 ∧ 0 < word ∧ Number.leastSigned ≤ -word then some (.integer (-word))
    else double word beyond
  | none, some exponent => double word (beyond + exponent)
  | some digits, exponent =>
    let (full, dropped) := gather word digits
    double full ((beyond : Int) - ((digits.length - dropped : Nat) : Int) + exponent.getD 0)
where
  double (word : Nat) (exponent : Int) : Option Number :=
    (scale word exponent).map fun value => .double (value.withSign literal.negative)

end Literal

end SearchQuery
