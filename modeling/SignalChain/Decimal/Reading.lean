/-!
# Reading decimals

The double nearest to a decimal, and numbers as a person writes them: a sign,
digits around a point and a power of ten.
-/

namespace SignalChain

namespace Decimal

def readDigits : List Char -> List Nat × List Char
  | [] => ([], [])
  | c :: rest =>
      if c.isDigit then
        let (digits, rest) := readDigits rest
        ((c.toNat - '0'.toNat) :: digits, rest)
      else
        ([], c :: rest)

def ofDigitsIn (base : Nat) (digits : List Nat) : Nat :=
  digits.foldl (fun n d => base * n + d) 0

def ofDigits (digits : List Nat) : Nat :=
  ofDigitsIn 10 digits

/-- Powers of ten beyond this one, up or down, leave the range of a double. -/
def farthestPower : Int :=
  400

/--
The double nearest to `coefficient * 10 ^ exponent`, a tie to the even
mantissa.  A coefficient of few digits with a power of ten far out of range
needs no exact arithmetic.
-/
def nearest (coefficient : Nat) (exponent : Int) : Float :=
  let size := (Nat.toDigits 10 coefficient).length + exponent
  if coefficient = 0 || size < -farthestPower then
    Float.ofScientific 0 false 0
  else if farthestPower < size then
    Float.ofScientific 1 false farthestPower.toNat
  else if exponent < 0 then
    Float.ofScientific coefficient true exponent.natAbs
  else
    Float.ofScientific coefficient false exponent.natAbs

def powerOfTen (power : Nat) : Float :=
  nearest 1 power

/-! ## Numbers as people write them -/

/-- Take a sign off; a minus sign gives true. -/
def readSign : List Char -> Bool × List Char
  | '-' :: rest => (true, rest)
  | '+' :: rest => (false, rest)
  | cs => (false, cs)

def readPlaces : List Char -> List Nat × List Char
  | '.' :: rest => readDigits rest
  | cs => ([], cs)

/-- The power of ten after an exponent mark, and zero without one. -/
def readPower? : List Char -> Option Int
  | [] => some 0
  | c :: rest =>
      let (negative, rest) := readSign rest
      match readDigits rest with
      | (digit :: digits, []) =>
          let power : Int := ofDigits (digit :: digits)
          if c == 'e' || c == 'E' then
            some (if negative then -power else power)
          else
            none
      | _ => none

def readPlain? (cs : List Char) : Option Float := do
  let (whole, cs) := readDigits cs
  let (places, cs) := readPlaces cs
  let power <- readPower? cs
  if whole.isEmpty && places.isEmpty then
    none
  else
    some (nearest (ofDigits (whole ++ places)) (power - places.length))

def namedValue? (cs : List Char) : Option Float :=
  let name := String.ofList (cs.map Char.toLower)
  if name = "inf" || name = "infinity" then some (1 / 0)
  else if name = "nan" then some (0 / 0)
  else none

def read? (s : String) : Option Float :=
  let (negative, cs) := readSign s.toList
  ((readPlain? cs).or (namedValue? cs)).map (fun x => if negative then -x else x)

end Decimal

end SignalChain
