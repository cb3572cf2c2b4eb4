import SignalChain.Decimal.Shortest

/-!
# Decimal text of numbers

How digits are set out with a decimal point or with an exponent.  Each text
format that the library writes is one `FloatLayout`: where its plain form ends,
what it adds to a whole number and how it spells the values without digits.
-/

namespace SignalChain

namespace Decimal

def natText (n : Nat) : List Char :=
  Nat.toDigits 10 n

def intText (n : Int) : List Char :=
  if n < 0 then '-' :: natText n.natAbs else natText n.natAbs

/-- Digits with the point in its place and zeros where digits are missing. -/
def plainText (digits : Digits) : List Char :=
  let text := natText digits.coefficient
  let point := (text.length : Int) + digits.exponent
  if 0 <= digits.exponent then
    if digits.coefficient = 0 then text
    else text ++ List.replicate digits.exponent.toNat '0'
  else if point <= 0 then
    '0' :: '.' :: List.replicate (-point).toNat '0' ++ text
  else
    text.take point.toNat ++ '.' :: text.drop point.toNat

/-- The power of ten that the first digit stands for. -/
def leadingExponent (digits : Digits) : Int :=
  digits.exponent + (natText digits.coefficient).length - 1

/-- One digit, the others after a point, and the power of ten. -/
def exponentText (plus : Bool) (digits : Digits) : List Char :=
  let power := leadingExponent digits
  let mark := if plus && 0 <= power then ['e', '+'] else ['e']
  let mantissa :=
    match natText digits.coefficient with
    | [] => []
    | [d] => [d]
    | d :: rest => d :: '.' :: rest
  mantissa ++ mark ++ intText power

/-- How a text format writes a double. -/
structure FloatLayout where
  /-- Whether a number is written plainly, by the power of its first digit. -/
  plain : Int -> Bool
  /-- What follows the digits of a plainly written whole number. -/
  wholeMark : List Char
  /-- Whether a positive power of ten bears a plus sign. -/
  plusSign : Bool
  /-- The text of a value that is not a number. -/
  notANumber : List Char
  /-- The text of positive infinity. -/
  infinity : List Char

def FloatLayout.digits (layout : FloatLayout) (digits : Digits) : List Char :=
  if digits.coefficient = 0 || layout.plain (leadingExponent digits) then
    plainText digits ++ (if 0 <= digits.exponent then layout.wholeMark else [])
  else
    exponentText layout.plusSign digits

def FloatLayout.write (layout : FloatLayout) (x : Float) : List Char :=
  let sign := if isNegative x then ['-'] else []
  match magnitude x with
  | .notANumber => layout.notANumber
  | .infinite => sign ++ layout.infinity
  | .finite mantissa exponent =>
      sign ++ layout.digits (shortest mantissa exponent)

/-- Numbers in messages: never an exponent, and nothing after a whole number. -/
def messageLayout : FloatLayout where
  plain := fun _ => true
  wholeMark := []
  plusSign := false
  notANumber := ['N', 'a', 'N']
  infinity := ['i', 'n', 'f']

/-- Numbers in the log: a whole number ends in `.0`, far ones have an exponent. -/
def logLayout : FloatLayout where
  plain := fun power => -4 <= power && power < 16
  wholeMark := ['.', '0']
  plusSign := false
  notANumber := ['N', 'a', 'N']
  infinity := ['i', 'n', 'f']

def messageText (x : Float) : String :=
  String.ofList (messageLayout.write x)

def logText (x : Float) : String :=
  String.ofList (logLayout.write x)

/-- Digits of a number of units, with the last `places` of them after a point. -/
def placesText (places units : Nat) : List Char :=
  let text := natText units
  let padded := List.replicate (places + 1 - text.length) '0' ++ text
  if places = 0 then padded
  else
    padded.take (padded.length - places) ++
      '.' :: padded.drop (padded.length - places)

def fixedText (places : Nat) (x : Float) : String :=
  let sign := if isNegative x then ['-'] else []
  String.ofList <|
    match magnitude x with
    | .notANumber => ['N', 'a', 'N']
    | .infinite => sign ++ ['i', 'n', 'f']
    | .finite mantissa exponent =>
        sign ++ placesText places (roundedUnits places mantissa exponent)

end Decimal

end SignalChain
