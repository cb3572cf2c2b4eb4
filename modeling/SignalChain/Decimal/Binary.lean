/-!
# Binary fractions

The exact value of a double, read off its bits: a sign, and a magnitude that
is a natural number times a power of two.
-/

namespace SignalChain

namespace Decimal

inductive Magnitude where
  /-- The number `mantissa * 2 ^ exponent`. -/
  | finite (mantissa : Nat) (exponent : Int)
  | infinite
  | notANumber
deriving DecidableEq

/-- The bit above the 52 bits of a fraction. -/
def leadingBit : Nat :=
  0x10000000000000

def signBit : Nat :=
  0x8000000000000000

/-- The magnitude that the lower 63 bits of a double stand for. -/
def magnitudeOfBits (bits : Nat) : Magnitude :=
  let scale : Nat := bits / leadingBit % 2048
  let fraction : Nat := bits % leadingBit
  if scale = 2047 then
    if fraction = 0 then .infinite else .notANumber
  else if scale = 0 then
    .finite fraction (-1074)
  else
    .finite (leadingBit + fraction) ((scale : Int) - 1075)

def magnitude (x : Float) : Magnitude :=
  magnitudeOfBits x.toBits.toNat

def isNegative (x : Float) : Bool :=
  x.toBits.toNat / signBit % 2 == 1

/-- The factor `2 ^ exponent` of a numerator. -/
def upperPower (base : Nat) (exponent : Int) : Nat :=
  Nat.pow base exponent.toNat

/-- The factor that `2 ^ exponent` puts below the line. -/
def lowerPower (base : Nat) (exponent : Int) : Nat :=
  Nat.pow base (-exponent).toNat

end Decimal

end SignalChain
