import SignalChain.Decimal.Layout
import SignalChain.Decimal.Reading
import SignalChain.Text.Hex

/-!
# Dates and times

A moment is a date, a time of day, or both with or without an offset from
universal time.  It is written back in one form: a capital T between date and
time, at most nine places of a second and none of them a final zero.
-/

namespace SignalChain

namespace Document

namespace Toml

structure Date where
  year : Nat
  month : Nat
  day : Nat

structure TimeOfDay where
  hour : Nat
  minute : Nat
  second : Nat
  /-- The digits after the point. -/
  places : List Nat

/-- Minutes from universal time; `none` is written as the letter Z. -/
structure Offset where
  minutes : Option Int

inductive Moment where
  | date (date : Date)
  | time (time : TimeOfDay)
  | both (date : Date) (time : TimeOfDay) (offset : Option Offset)

/-! ## Reading -/

def readTwo? (low high : Nat) : List Char -> Option (Nat × List Char)
  | a :: b :: rest =>
      if a.isDigit && b.isDigit then
        let n := 10 * (a.toNat - '0'.toNat) + (b.toNat - '0'.toNat)
        if low <= n && n <= high then some (n, rest) else none
      else
        none
  | _ => none

def readMark? (mark : Char) : List Char -> Option (List Char)
  | c :: rest => if c = mark then some rest else none
  | [] => none

def isLeapYear (year : Nat) : Bool :=
  year % 4 == 0 && (year % 100 != 0 || year % 400 == 0)

def daysIn (year month : Nat) : Nat :=
  if month = 2 then (if isLeapYear year then 29 else 28)
  else if month = 4 || month = 6 || month = 9 || month = 11 then 30
  else 31

def readDate? (cs : List Char) : Option (Date × List Char) := do
  let (century, cs) <- readTwo? 0 99 cs
  let (yearOfCentury, cs) <- readTwo? 0 99 cs
  let year := 100 * century + yearOfCentury
  let cs <- readMark? '-' cs
  let (month, cs) <- readTwo? 1 12 cs
  let cs <- readMark? '-' cs
  let (day, cs) <- readTwo? 1 (daysIn year month) cs
  some (⟨year, month, day⟩, cs)

/-- Read the digits of a second after its point, of which nine count. -/
def readSecondPlaces (cs : List Char) : List Nat × List Char :=
  match cs with
  | '.' :: rest =>
      match Decimal.readDigits rest with
      | ([], _) => ([], cs)
      | (digits, rest) => (digits.take 9, rest)
  | _ => ([], cs)

def readTime? (cs : List Char) : Option (TimeOfDay × List Char) := do
  let (hour, cs) <- readTwo? 0 23 cs
  let cs <- readMark? ':' cs
  let (minute, cs) <- readTwo? 0 59 cs
  let cs <- readMark? ':' cs
  let (second, cs) <- readTwo? 0 60 cs
  let (places, cs) := readSecondPlaces cs
  some (⟨hour, minute, second, places⟩, cs)

/-- Read an offset in hours and minutes, with a factor for its sign. -/
def readHours? (sign : Int) (cs : List Char) : Option (Offset × List Char) := do
  let (hour, cs) <- readTwo? 0 23 cs
  let cs <- readMark? ':' cs
  let (minute, cs) <- readTwo? 0 59 cs
  some (⟨some (sign * (60 * hour + minute : Nat))⟩, cs)

def readOffset? : List Char -> Option (Offset × List Char)
  | 'Z' :: rest => some (⟨none⟩, rest)
  | 'z' :: rest => some (⟨none⟩, rest)
  | '+' :: rest => readHours? 1 rest
  | '-' :: rest => readHours? (-1) rest
  | _ => none

def readTimeAfter? : List Char -> Option ((TimeOfDay × Option Offset) × List Char)
  | [] => none
  | c :: rest =>
      if c = 'T' || c = 't' || c = ' ' then do
        let (time, rest) <- readTime? rest
        match readOffset? rest with
        | some (offset, rest) => some ((time, some offset), rest)
        | none => some ((time, none), rest)
      else
        none

def readMoment? (cs : List Char) : Option (Moment × List Char) :=
  match readDate? cs with
  | none => (readTime? cs).map (fun (time, rest) => (.time time, rest))
  | some (date, rest) =>
      match readTimeAfter? rest with
      | none => some (.date date, rest)
      | some ((time, offset), rest) => some (.both date time offset, rest)

/-! ## Writing -/

def padded (width n : Nat) : List Char :=
  Text.zeroPadded width (Decimal.natText n)

def Date.text (d : Date) : List Char :=
  padded 4 d.year ++ '-' :: padded 2 d.month ++ '-' :: padded 2 d.day

/-- The places of a second as they are written, if any is not zero. -/
def placesText (places : List Nat) : List Char :=
  match (places.reverse.dropWhile (fun d => d == 0)).reverse with
  | [] => []
  | places => '.' :: places.flatMap Decimal.natText

def TimeOfDay.text (t : TimeOfDay) : List Char :=
  padded 2 t.hour ++ ':' :: padded 2 t.minute ++ ':' :: padded 2 t.second ++
    placesText t.places

def Offset.text (o : Offset) : List Char :=
  match o.minutes with
  | none => ['Z']
  | some minutes =>
      (if minutes < 0 then '-' else '+') :: padded 2 (minutes.natAbs / 60) ++
        ':' :: padded 2 (minutes.natAbs % 60)

def Moment.text : Moment -> String
  | .date d => String.ofList d.text
  | .time t => String.ofList t.text
  | .both d t offset =>
      String.ofList (d.text ++ 'T' :: t.text ++ (offset.map Offset.text).getD [])

end Toml

end Document

end SignalChain
