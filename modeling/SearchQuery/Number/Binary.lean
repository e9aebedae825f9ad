namespace SearchQuery

def twoPower (n : Nat) : Nat := Nat.pow 2 n

def tenPower (n : Nat) : Nat := Nat.pow 10 n

-- Binary floating point in exact arithmetic. A finite value of a format is a whole number of its
-- units, so every operation is a quotient of natural numbers that is rounded once.
structure BinaryFormat where
  precision : Nat
  -- The unit is `2 ^ -unitPlaces`.
  unitPlaces : Nat
  -- The greatest finite magnitude is a full significand times `2 ^ spread` units.
  spread : Nat
  deriving DecidableEq

namespace BinaryFormat

def double : BinaryFormat := ⟨53, 1074, 2045⟩

def single : BinaryFormat := ⟨24, 149, 253⟩

def greatest (format : BinaryFormat) : Nat :=
  (twoPower format.precision - 1) * twoPower format.spread

end BinaryFormat

def roundRatio (num den : Nat) : Nat :=
  let low := num / den
  let twice := 2 * (num % den)
  if twice < den then low
  else if den < twice then low + 1
  else low + low % 2

inductive Binary (format : BinaryFormat) where
  | finite (negative : Bool) (units : Nat)
  | infinite (negative : Bool)
  deriving DecidableEq

namespace Binary

variable {format : BinaryFormat}

def step (format : BinaryFormat) (units : Nat) : Nat :=
  if units < twoPower format.precision then 1
  else twoPower (units.log2 + 1 - format.precision)

def nearestUnits (format : BinaryFormat) (num den : Nat) : Nat :=
  let step := step format (num / den)
  roundRatio num (den * step) * step

def ofRatio (format : BinaryFormat) (negative : Bool) (num den : Nat) : Binary format :=
  let units := nearestUnits format (num * twoPower format.unitPlaces) den
  if units ≤ format.greatest then .finite negative units else .infinite negative

def ofNat (format : BinaryFormat) (n : Nat) : Binary format := ofRatio format false n 1

def withSign (negative : Bool) : Binary format → Binary format
  | .finite _ units => .finite negative units
  | .infinite _ => .infinite negative

def convert (target : BinaryFormat) : Binary format → Binary target
  | .finite negative units => ofRatio target negative units (twoPower format.unitPlaces)
  | .infinite negative => .infinite negative

-- The magnitude times `10 ^ places`, the power itself rounded to the format first.
def timesTen (value : Binary format) (places : Nat) : Binary format :=
  match value, ofNat format (tenPower places) with
  | .finite negative units, .finite _ power =>
    ofRatio format negative (units * power) (twoPower (2 * format.unitPlaces))
  | .finite negative _, .infinite _ => .infinite negative
  | .infinite negative, _ => .infinite negative

def overTen (value : Binary format) (places : Nat) : Binary format :=
  match value, ofNat format (tenPower places) with
  | .finite negative units, .finite _ power => ofRatio format negative units power
  | .finite negative _, .infinite _ => .finite negative 0
  | .infinite negative, _ => .infinite negative

def isZero : Binary format → Bool
  | .finite _ units => units == 0
  | .infinite _ => false

end Binary

end SearchQuery
