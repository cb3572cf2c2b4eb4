import SignalChain.Decimal.Reading
import SignalChain.Document.Value

/-!
# JSON numbers

A number in a JSON text is an integer when it is written without point and
exponent and fits into 64 bits, and a double otherwise.  The double is built
from the first digits that fit into 64 bits, scaled by one power of ten; a
number beyond the range of a double has no value.
-/

namespace SignalChain

namespace Document

namespace Json

open Decimal

structure Numeral where
  negative : Bool
  whole : List Nat
  fraction : Option (List Nat)
  exponent : Option Int

/-- Digits before the point: no leading zero, and at least one digit. -/
def readWhole (cs : List Char) : Option (List Nat × List Char) :=
  match readDigits cs with
  | ([], _) => none
  | (0 :: _ :: _, _) => none
  | (digits, rest) => some (digits, rest)

def readFraction : List Char -> Option (Option (List Nat) × List Char)
  | '.' :: rest =>
      match readDigits rest with
      | ([], _) => none
      | (digits, rest) => some (some digits, rest)
  | cs => some (none, cs)

def readExponent : List Char -> Option (Option Int × List Char)
  | c :: rest =>
      if c == 'e' || c == 'E' then
        let (negative, rest) :=
          match rest with
          | '-' :: rest => (true, rest)
          | '+' :: rest => (false, rest)
          | rest => (false, rest)
        match readDigits rest with
        | ([], _) => none
        | (digits, rest) =>
            let power : Int := ofDigits digits
            some (some (if negative then -power else power), rest)
      else
        some (none, c :: rest)
  | [] => some (none, [])

def readNumeral (cs : List Char) : Option (Numeral × List Char) := do
  let (negative, cs) :=
    match cs with
    | '-' :: rest => (true, rest)
    | cs => (false, cs)
  let (whole, cs) <- readWhole cs
  let (fraction, cs) <- readFraction cs
  let (exponent, cs) <- readExponent cs
  some (⟨negative, whole, fraction, exponent⟩, cs)

/-! ## The value of a number -/

/-- Append digits to a 64-bit number; the digits from the first that does not
fit are only counted. -/
def takeWhole (n : Nat) : List Nat -> Nat × Nat
  | [] => (n, 0)
  | d :: rest =>
      if isUnsigned64 (10 * n + d) then takeWhole (10 * n + d) rest
      else (n, rest.length + 1)

/-- Append digits as long as they fit into 64 bits, and count them. -/
def takeFraction (n : Nat) : List Nat -> Nat × Nat
  | [] => (n, 0)
  | d :: rest =>
      if isUnsigned64 (10 * n + d) then
        let (n, taken) := takeFraction (10 * n + d) rest
        (n, taken + 1)
      else
        (n, 0)

/-- Divide by a power of ten, at most 308 places at a time. -/
def scaleDown (x : Float) (places : Nat) : Float :=
  if places <= 308 then
    x / powerOfTen places
  else if x == 0 then
    x
  else
    scaleDown (x / powerOfTen 308) (places - 308)
termination_by places
decreasing_by omega

/-- Multiply by a power of ten; nothing beyond the range of a double. -/
def scaleUp? (x : Float) (places : Nat) : Option Float :=
  if places <= 308 then
    let product := x * powerOfTen places
    if product.isInf then none else some product
  else if x == 0 then
    some x
  else
    none

def scaled? (significand : Nat) (power : Int) : Option Float :=
  if 0 <= power then
    scaleUp? (Float.ofNat significand) power.toNat
  else
    some (scaleDown (Float.ofNat significand) (-power).toNat)

/-- The value of a number that is no 64-bit integer. -/
def Numeral.floatValue (n : Numeral) : Value :=
  let (significand, dropped) := takeWhole 0 n.whole
  let (significand, taken) := takeFraction significand (n.fraction.getD [])
  match scaled? significand (dropped - taken + n.exponent.getD 0) with
  | none => .unusable
  | some x => .float (if n.negative then -x else x)

def Numeral.toValue (n : Numeral) : Value :=
  if n.fraction.isNone && n.exponent.isNone then
    let whole := ofDigits n.whole
    if n.negative then
      if whole != 0 && isSigned64 (-whole) then .int (-whole) else n.floatValue
    else
      if isUnsigned64 whole then .int whole else n.floatValue
  else
    n.floatValue

end Json

end Document

end SignalChain
