import SignalChain.Text.Hex
import SignalChain.Text.Unseen

/-!
# The log

What the program reports about its work: warnings always, the rest on demand.
An entry is one message with named values.  Control characters that a terminal
would obey are written out in messages.
-/

namespace SignalChain

namespace Command

namespace Log

inductive Level where
  | debug
  | warn
deriving DecidableEq

def Level.text : Level -> String
  | .debug => "DEBUG"
  | .warn => "WARN"

structure Entry where
  level : Level
  message : String
  values : List (String × String)
deriving DecidableEq

/-- Whether a terminal would obey a character, line ends and tabs aside. -/
def isTerminalControl (c : Char) : Bool :=
  c == '\x1b' || c == '\x07' || c == '\x08' || c == '\x0c' || c == '\x7f' ||
    (0x80 <= c.toNat && c.toNat <= 0x9f)

def messageChar (c : Char) : List Char :=
  if isTerminalControl c then
    if c.toNat < 0x80 then
      '\\' :: 'x' :: Text.zeroPadded 2 (Text.lowerHex c.toNat)
    else
      '\\' :: 'u' :: '\x7b' :: Text.lowerHex c.toNat ++ ['\x7d']
  else
    [c]

def quotedChar (c : Char) : List Char :=
  match c with
  | '"' => ['\\', '"']
  | '\\' => ['\\', '\\']
  | '\x00' => ['\\', '0']
  | '\t' => ['\\', 't']
  | '\n' => ['\\', 'n']
  | '\r' => ['\\', 'r']
  | c =>
      if Text.isSeen c then [c]
      else '\\' :: 'u' :: '\x7b' :: Text.lowerHex c.toNat ++ ['\x7d']

def quoted (s : String) : String :=
  String.ofList ('"' :: s.toList.flatMap quotedChar ++ ['"'])

def shownMessage (message : String) : String :=
  String.ofList (message.toList.flatMap messageChar)

def Entry.text (e : Entry) : String :=
  String.intercalate " " <|
    e.level.text :: shownMessage e.message ::
      e.values.map (fun (name, value) => name ++ "=" ++ value)

end Log

end Command

end SignalChain
