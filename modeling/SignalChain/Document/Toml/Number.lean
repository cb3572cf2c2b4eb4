import SignalChain.Decimal.Reading
import SignalChain.Document.Value
import SignalChain.Text.Hex

/-!
# TOML numbers

Integers have 64 bits with sign and may be written in four bases; a number with
a point or an exponent is a double.  Between two digits one underscore may
stand.
-/

namespace SignalChain

namespace Document

namespace Toml

open Decimal

def decimalDigit? (c : Char) : Option Nat :=
  if c.isDigit then some (c.toNat - '0'.toNat) else none

def digitBelow? (base : Nat) (c : Char) : Option Nat :=
  (Text.hexDigit? c).filter (fun d => d < base)

/-- Read the digits after the first; an underscore needs a digit after it. -/
def readMoreDigits? (digit? : Char -> Option Nat) :
    List Char -> Option (List Nat × List Char)
  | [] => some ([], [])
  | '_' :: c :: rest => do
      let d <- digit? c
      let (digits, rest) <- readMoreDigits? digit? rest
      some (d :: digits, rest)
  | c :: rest =>
      match digit? c with
      | some d => do
          let (digits, rest) <- readMoreDigits? digit? rest
          some (d :: digits, rest)
      | none => if c = '_' then none else some ([], c :: rest)

def readDigits? (digit? : Char -> Option Nat) :
    List Char -> Option (List Nat × List Char)
  | [] => none
  | c :: rest => do
      let d <- digit? c
      let (digits, rest) <- readMoreDigits? digit? rest
      some (d :: digits, rest)

def readWhole? : List Char -> Option (List Nat × List Char)
  | '0' :: rest => some ([0], rest)
  | cs => readDigits? decimalDigit? cs

/-- The integer value, if it has 64 bits. -/
def integer? (n : Int) : Option Value :=
  if isSigned64 n then some (.int n) else none

/-- The double of digits and a power of ten; positive infinity is none. -/
def double? (negative : Bool) (digits : List Nat) (power : Int) :
    Option Value :=
  let x := nearest (ofDigits digits) power
  if negative then some (.float (-x))
  else if x.isInf then none
  else some (.float x)

def readPower? (cs : List Char) : Option (Int × List Char) := do
  let (negative, cs) := readSign cs
  let (digits, rest) <- readDigits? decimalDigit? cs
  let power : Int := ofDigits digits
  some (if negative then -power else power, rest)

def readPowerAfter? (cs : List Char) : Option (Int × List Char) :=
  match cs with
  | c :: rest => if c = 'e' || c = 'E' then readPower? rest else some (0, cs)
  | [] => some (0, [])

def readDecimal? (negative : Bool) (cs : List Char) :
    Option (Value × List Char) := do
  let (whole, rest) <- readWhole? cs
  match rest with
  | '.' :: rest => do
      let (places, rest) <- readDigits? decimalDigit? rest
      let (power, rest) <- readPowerAfter? rest
      let value <- double? negative (whole ++ places) (power - places.length)
      some (value, rest)
  | c :: after =>
      if c = 'e' || c = 'E' then do
        let (power, rest) <- readPower? after
        let value <- double? negative whole power
        some (value, rest)
      else do
        let n : Int := ofDigits whole
        let value <- integer? (if negative then -n else n)
        some (value, rest)
  | [] => do
      let n : Int := ofDigits whole
      let value <- integer? (if negative then -n else n)
      some (value, [])

def readInBase? (base : Nat) (cs : List Char) : Option (Value × List Char) := do
  let (digits, rest) <- readDigits? (digitBelow? base) cs
  let value <- integer? (ofDigitsIn base digits)
  some (value, rest)

def readNumber? (cs : List Char) : Option (Value × List Char) :=
  match cs with
  | '0' :: 'x' :: rest => readInBase? 16 rest
  | '0' :: 'o' :: rest => readInBase? 8 rest
  | '0' :: 'b' :: rest => readInBase? 2 rest
  | cs =>
      let (negative, rest) := readSign cs
      match rest with
      | 'i' :: 'n' :: 'f' :: rest =>
          some (.float (if negative then -1 / 0 else 1 / 0), rest)
      | 'n' :: 'a' :: 'n' :: rest =>
          some (.float (if negative then -(0 / 0) else 0 / 0), rest)
      | rest => readDecimal? negative rest

end Toml

end Document

end SignalChain
