import SignalChain.Document.Json.Number
import SignalChain.Text.Hex

/-!
# Reading JSON

The reader accepts exactly one JSON value with nothing but white space around
it.  A value that is well formed but cannot be used is read as such, and the
records decide whether that matters: a number beyond the range of a double, a
text with half of a surrogate pair, and a list or object inside 127 others.
-/

namespace SignalChain

namespace Document

namespace Json

def skipBlank (cs : List Char) : List Char :=
  cs.dropWhile (fun c => c == ' ' || c == '\t' || c == '\n' || c == '\r')

/-! ## Texts -/

def letterEscape? : Char -> Option Char
  | '"' => some '"'
  | '\\' => some '\\'
  | '/' => some '/'
  | 'b' => some '\x08'
  | 'f' => some '\x0c'
  | 'n' => some '\n'
  | 'r' => some '\r'
  | 't' => some '\t'
  | _ => none

/--
Read a text up to its closing quote, as code points.  An escape may stand for
half of a surrogate pair.
-/
def readCodes : List Char -> Option (List Nat × List Char)
  | [] => none
  | '"' :: rest => some ([], rest)
  | '\\' :: 'u' :: a :: b :: c :: d :: rest => do
      let code <- Text.hexNumber? [a, b, c, d]
      let (codes, rest) <- readCodes rest
      some (code :: codes, rest)
  | '\\' :: c :: rest => do
      let c <- letterEscape? c
      let (codes, rest) <- readCodes rest
      some (c.toNat :: codes, rest)
  | c :: rest =>
      if c.toNat < 0x20 then
        none
      else do
        let (codes, rest) <- readCodes rest
        some (c.toNat :: codes, rest)

def isHighSurrogate (code : Nat) : Bool :=
  0xD800 <= code && code < 0xDC00

def isLowSurrogate (code : Nat) : Bool :=
  0xDC00 <= code && code < 0xE000

/-- The characters of code points; nothing if half of a pair stands alone. -/
def joinSurrogates : List Nat -> Option (List Char)
  | [] => some []
  | [code] =>
      if isHighSurrogate code || isLowSurrogate code then none
      else some [Char.ofNat code]
  | high :: low :: rest =>
      if isHighSurrogate high && isLowSurrogate low then
        (joinSurrogates rest).map
          (Char.ofNat ((high - 0xD800) * 0x400 + (low - 0xDC00) + 0x10000) :: ·)
      else if isHighSurrogate high || isLowSurrogate high then
        none
      else
        (joinSurrogates (low :: rest)).map (Char.ofNat high :: ·)

/-- Read a text after its opening quote; the text may be unusable. -/
def readText (cs : List Char) : Option (Option String × List Char) :=
  (readCodes cs).map
    (fun (codes, rest) => ((joinSurrogates codes).map String.ofList, rest))

/-! ## Values -/

/-- A list or object is usable if at most 126 others enclose it. -/
def nested (level : Nat) (v : Value) : Value :=
  if level < 127 then v else .unusable

/-- An object is usable if all its names are. -/
def objectOf (fields : List (Option String × Value)) : Value :=
  match fields.mapM (fun field => field.1.map (fun name => (name, field.2))) with
  | none => .unusable
  | some fields => .object fields

/-- What a scalar value without quotes is, by its first letter. -/
def readScalar (cs : List Char) : Option (Value × List Char) :=
  match cs with
  | 'n' :: 'u' :: 'l' :: 'l' :: rest => some (.null, rest)
  | 't' :: 'r' :: 'u' :: 'e' :: rest => some (.bool true, rest)
  | 'f' :: 'a' :: 'l' :: 's' :: 'e' :: rest => some (.bool false, rest)
  | cs => (readNumeral cs).map (fun (n, rest) => (n.toValue, rest))

mutual

/-- Read a value that `level` lists and objects enclose. -/
def readValue (fuel level : Nat) (cs : List Char) :
    Option (Value × List Char) :=
  match fuel with
  | 0 => none
  | fuel + 1 =>
      match skipBlank cs with
      | '"' :: rest => do
          let (text, rest) <- readText rest
          some ((text.map Value.text).getD .unusable, rest)
      | '[' :: rest =>
          match skipBlank rest with
          | ']' :: rest => some (nested level (.list []), rest)
          | rest => do
              let (items, rest) <- readItems fuel (level + 1) rest
              some (nested level (.list items), rest)
      | '\x7b' :: rest =>
          match skipBlank rest with
          | '\x7d' :: rest => some (nested level (.object []), rest)
          | rest => do
              let (fields, rest) <- readFields fuel (level + 1) rest
              some (nested level (objectOf fields), rest)
      | cs => readScalar cs

def readItems (fuel level : Nat) (cs : List Char) :
    Option (List Value × List Char) :=
  match fuel with
  | 0 => none
  | fuel + 1 => do
      let (item, rest) <- readValue fuel level cs
      match skipBlank rest with
      | ',' :: rest => do
          let (items, rest) <- readItems fuel level rest
          some (item :: items, rest)
      | ']' :: rest => some ([item], rest)
      | _ => none

def readFields (fuel level : Nat) (cs : List Char) :
    Option (List (Option String × Value) × List Char) :=
  match fuel with
  | 0 => none
  | fuel + 1 =>
      match skipBlank cs with
      | '"' :: rest => do
          let (name, rest) <- readText rest
          match skipBlank rest with
          | ':' :: rest => do
              let (value, rest) <- readValue fuel level rest
              match skipBlank rest with
              | ',' :: rest => do
                  let (fields, rest) <- readFields fuel level rest
                  some ((name, value) :: fields, rest)
              | '\x7d' :: rest => some ([(name, value)], rest)
              | _ => none
          | _ => none
      | _ => none

end

def read? (text : String) : Option Value := do
  let cs := text.toList
  let (value, rest) <- readValue (2 * cs.length + 2) 0 cs
  if (skipBlank rest).isEmpty then some value else none

end Json

end Document

end SignalChain
