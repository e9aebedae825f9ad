import SearchQuery.Number.Literal
import SearchQuery.Number.Shortest

namespace SearchQuery

structure DecimalLayout where
  -- From this power of ten of the first digit on, and below the next, no exponent is written.
  plainFrom : Int
  plainBelow : Int
  emptyFraction : List Char
  exponentMark : List Char
  plus : List Char

-- The layout of request bodies: `100000.0`, `0.00001`, `1e+16`, `1e-6`.
def DecimalLayout.body : DecimalLayout := ⟨-5, 16, ['.', '0'], ['e'], ['+']⟩

def DecimalLayout.score : DecimalLayout := ⟨-6, 13, ['.', '0'], ['e'], ['+']⟩

def natDigits (n : Nat) : List Char := Nat.toDigits 10 n

def intDigits : Int → List Char
  | .ofNat n => natDigits n
  | .negSucc n => '-' :: natDigits (n + 1)

namespace DecimalLayout

def positional (layout : DecimalLayout) (number : Scientific) : List Char :=
  match number.exponent with
  | .negSucc before => '0' :: '.' :: (List.replicate before '0' ++ number.digits)
  | .ofNat last =>
    let whole := number.digits.take (last + 1)
    let fraction := number.digits.drop (last + 1)
    whole ++ List.replicate (last + 1 - whole.length) '0' ++
      (if fraction.isEmpty then layout.emptyFraction else '.' :: fraction)

def withExponent (layout : DecimalLayout) (number : Scientific) : List Char :=
  number.digits.take 1 ++
    (if (number.digits.drop 1).isEmpty then [] else '.' :: number.digits.drop 1) ++
    layout.exponentMark ++ (if 0 ≤ number.exponent then layout.plus else []) ++
    intDigits number.exponent

def write (layout : DecimalLayout) (number : Scientific) : List Char :=
  if layout.plainFrom ≤ number.exponent ∧ number.exponent < layout.plainBelow then
    layout.positional number
  else layout.withExponent number

def writeBinary {format : BinaryFormat} (layout : DecimalLayout) :
    Binary format → Option (List Char)
  | .infinite _ => none
  | .finite negative units =>
    let magnitude := if units = 0 then ⟨['0'], 0⟩ else Scientific.shortest format units
    some ((if negative then ['-'] else []) ++ layout.write magnitude)

end DecimalLayout

def Number.digits? : Number → Option (List Char)
  | .integer value => some (intDigits value)
  | .double value => DecimalLayout.body.writeBinary value
  | .single value => DecimalLayout.score.writeBinary value

end SearchQuery
