import SignalChain.Decimal.Layout
import SignalChain.Document.Toml.Section
import SignalChain.Text.Hex

/-!
# How TOML values are written

A text goes between quotes if nothing in it needs an escape, else between
apostrophes, else into a block, and only then escapes are used.  A list of two
or more values has one line for each; a table inside a value stays on one line.
-/

namespace SignalChain

namespace Document

namespace Toml

/-! ## Texts -/

/-- The length of the longest run of a character, after a run under way. -/
def longestRunFrom (mark : Char) (run : Nat) : List Char -> Nat
  | [] => run
  | c :: rest =>
      if c = mark then longestRunFrom mark (run + 1) rest
      else max run (longestRunFrom mark 0 rest)

def longestRun (mark : Char) (cs : List Char) : Nat :=
  longestRunFrom mark 0 cs

/-- Whether a character can only be written as an escape. -/
def needsEscape (c : Char) : Bool :=
  (c.toNat < 0x20 && c != '\t' && c != '\n') || c == '\x7f'

def escapedChar (block : Bool) (c : Char) : List Char :=
  match c with
  | '\\' => ['\\', '\\']
  | '\x08' => ['\\', 'b']
  | '\t' => ['\\', 't']
  | '\n' => if block then ['\n'] else ['\\', 'n']
  | '\x0c' => ['\\', 'f']
  | '\r' => ['\\', 'r']
  | c =>
      if needsEscape c then
        '\\' :: 'u' :: Text.zeroPadded 4 (Text.upperHex c.toNat)
      else
        [c]

/--
A text with escapes.  In a block two quotes in a row may stand as they are;
`quotes` counts those before the text.
-/
def escapedFrom (block : Bool) (quotes : Nat) : List Char -> List Char
  | [] => []
  | c :: rest =>
      if c = '"' then
        if block && quotes < 2 then
          '"' :: escapedFrom block (quotes + 1) rest
        else
          '\\' :: '"' :: escapedFrom block 0 rest
      else
        escapedChar block c ++ escapedFrom block 0 rest

def quoted (cs : List Char) : List Char :=
  '"' :: escapedFrom false 0 cs ++ ['"']

def literal (cs : List Char) : List Char :=
  '\'' :: cs ++ ['\'']

def blockOf (mark : Char) (cs text : List Char) : List Char :=
  let marks := List.replicate 3 mark
  marks ++ (if cs.contains '\n' then ['\n'] else []) ++ text ++ marks

/-- A text in the first form that fits it. -/
def textForm (cs : List Char) : List Char :=
  let controls := cs.any needsEscape
  let backslash := cs.contains '\\'
  let lineEnd := cs.contains '\n'
  let quotes := longestRun '"' cs
  let apostrophes := longestRun '\'' cs
  if !controls && !backslash && quotes = 0 && !lineEnd then quoted cs
  else if !controls && apostrophes = 0 && !lineEnd then literal cs
  else if !controls && !backslash && quotes <= 2 then
    blockOf '"' cs (escapedFrom true 0 cs)
  else if !controls && apostrophes <= 2 then blockOf '\'' cs cs
  else if lineEnd then blockOf '"' cs (escapedFrom true 0 cs)
  else quoted cs

/-- A name: bare if it can be, else as a text on one line. -/
def nameForm (name : String) : List Char :=
  let cs := name.toList
  let controls := cs.any (fun c => needsEscape c || c == '\n')
  if !cs.isEmpty && cs.all isBare then cs
  else if !controls && !cs.contains '\\' && !cs.contains '"' then quoted cs
  else if !controls && !cs.contains '\'' then literal cs
  else quoted cs

def keyForm (key : Key) : List Char :=
  List.intercalate ['.'] (key.names.map nameForm)

/-! ## Values -/

/-- Doubles in TOML: never an exponent, and always a point. -/
def floatLayout : Decimal.FloatLayout where
  plain := fun _ => true
  wholeMark := ['.', '0']
  plusSign := false
  notANumber := ['n', 'a', 'n']
  infinity := ['i', 'n', 'f']

mutual

/-- A value after an equals sign; null, which has no form, is left out. -/
def valueForm : Value -> List Char
  | .null => []
  | .bool true => ['t', 'r', 'u', 'e']
  | .bool false => ['f', 'a', 'l', 's', 'e']
  | .int n => Decimal.intText n
  | .float x => floatLayout.write x
  | .text s => textForm s.toList
  | .list [] => ['[', ']']
  | .list [item] => '[' :: valueForm item ++ [']']
  | .list (first :: second :: items) =>
      '[' :: '\n' :: itemLines (first :: second :: items) ++ [']']
  | .object [] => ['\x7b', '\x7d']
  | .object ((name, value) :: fields) =>
      '\x7b' :: ' ' :: nameForm name ++ ' ' :: '=' :: ' ' :: valueForm value ++
        moreFields fields ++ [' ', '\x7d']
  | .unusable => []

def itemLines : List Value -> List Char
  | [] => []
  | item :: items =>
      ' ' :: ' ' :: ' ' :: ' ' :: valueForm item ++ ',' :: '\n' :: itemLines items

def moreFields : List (String × Value) -> List Char
  | [] => []
  | (name, value) :: fields =>
      ',' :: ' ' :: nameForm name ++ ' ' :: '=' :: ' ' :: valueForm value ++
        moreFields fields

end

end Toml

end Document

end SignalChain
