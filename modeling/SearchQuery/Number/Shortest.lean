import SearchQuery.Number.Binary

namespace SearchQuery

-- Shortest decimal text of a binary value. If a point of a decimal grid rounds to the value, so
-- does one of the value's two grid neighbours, hence these are tested on ever finer grids.

structure Scientific where
  digits : List Char
  exponent : Int
  deriving DecidableEq

namespace Shortest

-- The reals that round to a value, in quarters of a unit so that all three are whole.
structure Interval where
  low : Nat
  middle : Nat
  high : Nat
  closed : Bool

-- Half a step to either side, less below a power of two where the steps get finer; the ends
-- round to the value when its significand is even.
def interval (format : BinaryFormat) (units : Nat) : Interval :=
  let step := Binary.step format units
  let finer := decide (twoPower format.precision ≤ units ∧ units = twoPower units.log2)
  { low := 4 * units - (if finer then step else 2 * step)
    middle := 4 * units
    high := 4 * units + 2 * step
    closed := units / step % 2 == 0 }

def order (num den : Nat) : Int :=
  if den ≤ num then (Nat.toDigits 10 (num / den)).length - 1
  else -(Nat.toDigits 10 ((den - 1) / num)).length

def Interval.holds (range : Interval) (factor den x : Nat) : Bool :=
  if range.closed then range.low * factor ≤ x * den && x * den ≤ range.high * factor
  else range.low * factor < x * den && x * den < range.high * factor

def onGrid (range : Interval) (den : Nat) (power : Int) : Option Nat :=
  let factor := tenPower (-power).toNat
  let den := den * tenPower power.toNat
  let below := range.middle * factor / den
  match range.holds factor den below, range.holds factor den (below + 1) with
  | true, true => some (roundRatio (range.middle * factor) den)
  | true, false => some below
  | false, true => some (below + 1)
  | false, false => none

end Shortest

def Scientific.ofGrid (point : Nat) (power : Int) : Scientific :=
  let digits := Nat.toDigits 10 point
  { digits := (digits.reverse.dropWhile (· = '0')).reverse
    exponent := power + digits.length - 1 }

-- Seventeen digits tell all doubles apart, so the search never runs out of grids.
def Scientific.shortest (format : BinaryFormat) (units : Nat) : Scientific :=
  let range := Shortest.interval format units
  let den := 4 * twoPower format.unitPlaces
  let first := Shortest.order range.middle den
  let hit := (List.range 17).findSome? fun (more : Nat) =>
    let power := first - (more : Int)
    (Shortest.onGrid range den power).map fun point => Scientific.ofGrid point power
  hit.getD ⟨['0'], 0⟩

end SearchQuery
