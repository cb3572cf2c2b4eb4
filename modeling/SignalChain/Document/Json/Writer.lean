import SignalChain.Decimal.Layout
import SignalChain.Document.Value
import SignalChain.Text.Hex

/-!
# Writing JSON

Values are written either on one line or over several lines, with two blanks
per level.  Doubles have their shortest digits and always a point or an
exponent; a double without a finite value is written as null.
-/

namespace SignalChain

namespace Document

namespace Json

/-- Doubles in JSON: plain from 0.00001 up to, but not including, 10^16. -/
def floatLayout : Decimal.FloatLayout where
  plain := fun power => -5 <= power && power < 16
  wholeMark := ['.', '0']
  plusSign := true
  notANumber := ['n', 'u', 'l', 'l']
  infinity := ['n', 'u', 'l', 'l']

def floatText (x : Float) : String :=
  if x.isFinite then String.ofList (floatLayout.write x) else "null"

def quotedChar (c : Char) : List Char :=
  match c with
  | '"' => ['\\', '"']
  | '\\' => ['\\', '\\']
  | '\x08' => ['\\', 'b']
  | '\x0c' => ['\\', 'f']
  | '\n' => ['\\', 'n']
  | '\r' => ['\\', 'r']
  | '\t' => ['\\', 't']
  | c =>
      if c.toNat < 0x20 then
        '\\' :: 'u' :: Text.zeroPadded 4 (Text.lowerHex c.toNat)
      else
        [c]

def quoted (s : String) : String :=
  String.ofList ('"' :: s.toList.flatMap quotedChar ++ ['"'])

def scalarText : Value -> String
  | .null => "null"
  | .bool true => "true"
  | .bool false => "false"
  | .int n => String.ofList (Decimal.intText n)
  | .float x => floatText x
  | .text s => quoted s
  | .list _ => "[]"
  | .object _ => "\x7b\x7d"
  | .unusable => "null"

/-! ## On one line -/

mutual

def compact : Value -> String
  | .list (item :: items) => "[" ++ compact item ++ compactItems items ++ "]"
  | .object ((name, value) :: fields) =>
      "\x7b" ++ quoted name ++ ":" ++ compact value ++ compactFields fields ++
        "\x7d"
  | v => scalarText v

def compactItems : List Value -> String
  | [] => ""
  | item :: items => "," ++ compact item ++ compactItems items

def compactFields : List (String × Value) -> String
  | [] => ""
  | (name, value) :: fields =>
      "," ++ quoted name ++ ":" ++ compact value ++ compactFields fields

end

/-! ## Over several lines -/

def lineBreak (level : Nat) : String :=
  String.ofList ('\n' :: List.replicate (2 * level) ' ')

mutual

def pretty (level : Nat) : Value -> String
  | .list (item :: items) =>
      "[" ++ lineBreak (level + 1) ++ pretty (level + 1) item ++
        prettyItems level items ++ lineBreak level ++ "]"
  | .object ((name, value) :: fields) =>
      "\x7b" ++ lineBreak (level + 1) ++ quoted name ++ ": " ++
        pretty (level + 1) value ++ prettyFields level fields ++
        lineBreak level ++ "\x7d"
  | v => scalarText v

def prettyItems (level : Nat) : List Value -> String
  | [] => ""
  | item :: items =>
      "," ++ lineBreak (level + 1) ++ pretty (level + 1) item ++
        prettyItems level items

def prettyFields (level : Nat) : List (String × Value) -> String
  | [] => ""
  | (name, value) :: fields =>
      "," ++ lineBreak (level + 1) ++ quoted name ++ ": " ++
        pretty (level + 1) value ++ prettyFields level fields

end

def write (v : Value) : String :=
  pretty 0 v

end Json

end Document

end SignalChain
