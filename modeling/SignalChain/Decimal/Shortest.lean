import SignalChain.Decimal.Binary

/-!
# The shortest decimal of a double

Among the decimals that round to a given double, the ones with the fewest
digits, and of these the one nearest to the double; a tie goes to the even
last digit.  The search goes through the numbers of digits from 1 to 17 and
looks at the two neighbours of the double on each decimal grid, in exact
arithmetic on natural numbers.
-/

namespace SignalChain

namespace Decimal

/-- The number `coefficient * 10 ^ exponent`. -/
structure Digits where
  coefficient : Nat
  exponent : Int
deriving DecidableEq

structure Ratio where
  numerator : Nat
  denominator : Nat

namespace Ratio

def scaled (factor base : Nat) (exponent : Int) : Ratio :=
  ⟨factor * upperPower base exponent, lowerPower base exponent⟩

def atMost (r s : Ratio) : Bool :=
  r.numerator * s.denominator <= s.numerator * r.denominator

def lessThan (r s : Ratio) : Bool :=
  r.numerator * s.denominator < s.numerator * r.denominator

end Ratio

/--
The decimal exponent of a positive binary fraction: the place of its first
digit, as the number `e` with `10 ^ e <= value < 10 ^ (e + 1)`.
-/
def leadingPlace (mantissa : Nat) (exponent : Int) : Int :=
  let value := Ratio.scaled mantissa 2 exponent
  let guess := ((mantissa.log2 : Int) + exponent) * 30103 / 100000
  if value.lessThan (Ratio.scaled 1 10 guess) then
    guess - 1
  else if (Ratio.scaled 1 10 (guess + 1)).atMost value then
    guess + 1
  else
    guess

/--
The decimals that round to a positive double lie between two fractions, and
the ends belong to them when the mantissa is even.  Below a power of two the
next double is only half as far away as above it.
-/
structure RoundingRange where
  low : Ratio
  value : Ratio
  high : Ratio
  closed : Bool

def roundingRange (mantissa : Nat) (exponent : Int) : RoundingRange :=
  let below :=
    if mantissa = leadingBit && exponent != -1074 then 4 * mantissa - 1
    else 4 * mantissa - 2
  { low := Ratio.scaled below 2 (exponent - 2)
    value := Ratio.scaled (4 * mantissa) 2 (exponent - 2)
    high := Ratio.scaled (4 * mantissa + 2) 2 (exponent - 2)
    closed := mantissa % 2 == 0 }

def RoundingRange.holds (range : RoundingRange) (r : Ratio) : Bool :=
  if range.closed then
    range.low.atMost r && r.atMost range.high
  else
    range.low.lessThan r && r.lessThan range.high

/-- Of two neighbouring multiples of a unit, whether the lower one is nearer. -/
def lowerIsNearer (value : Ratio) (lower : Nat) (place : Int) : Bool :=
  let middle := Ratio.scaled (2 * lower + 1) 10 place
  let twice : Ratio := ⟨2 * value.numerator, value.denominator⟩
  twice.lessThan middle || (twice.atMost middle && lower % 2 == 0)

/-- The multiple of `10 ^ place` in the range that is nearest to the value. -/
def nearestInRange? (range : RoundingRange) (place : Int) : Option Digits :=
  let unit := Ratio.scaled 1 10 place
  let lower :=
    range.value.numerator * unit.denominator /
      (range.value.denominator * unit.numerator)
  let lowerFits := range.holds (Ratio.scaled lower 10 place)
  let upperFits := range.holds (Ratio.scaled (lower + 1) 10 place)
  if lowerFits && (!upperFits || lowerIsNearer range.value lower place) then
    some ⟨lower, place⟩
  else if upperFits then
    some ⟨lower + 1, place⟩
  else
    none

def dropZeros (fuel : Nat) (digits : Digits) : Digits :=
  match fuel with
  | 0 => digits
  | fuel + 1 =>
      if digits.coefficient != 0 && digits.coefficient % 10 == 0 then
        dropZeros fuel ⟨digits.coefficient / 10, digits.exponent + 1⟩
      else
        digits

def shortest (mantissa : Nat) (exponent : Int) : Digits :=
  if mantissa = 0 then
    ⟨0, 0⟩
  else
    let range := roundingRange mantissa exponent
    let first := leadingPlace mantissa exponent
    let places := (List.range 17).map (fun (n : Nat) => first - n)
    match places.findSome? (nearestInRange? range) with
    | some digits => dropZeros 17 digits
    | none => ⟨0, 0⟩

/-! ## A set number of places -/

/-- Divide and round to the nearest, a tie to the even neighbour. -/
def roundDiv (numerator denominator : Nat) : Nat :=
  let quotient := numerator / denominator
  let rest := numerator % denominator
  if 2 * rest < denominator then quotient
  else if denominator < 2 * rest then quotient + 1
  else if quotient % 2 = 0 then quotient
  else quotient + 1

/-- How many units of the last of `places` places a magnitude rounds to. -/
def roundedUnits (places mantissa : Nat) (exponent : Int) : Nat :=
  roundDiv (mantissa * upperPower 2 exponent * Nat.pow 10 places)
    (lowerPower 2 exponent)

end Decimal

end SignalChain
