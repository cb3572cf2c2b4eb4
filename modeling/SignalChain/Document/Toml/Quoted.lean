import SignalChain.Document.Toml.Section
import SignalChain.Text.Hex

/-!
# Reading quoted texts

A text stands between quotes, where a backslash begins an escape, or between
apostrophes, where nothing does.  Three of either open a block, which may go
over several lines.  A line end is one character here.
-/

namespace SignalChain

namespace Document

namespace Toml

def letterEscape? : Char -> Option Char
  | '"' => some '"'
  | '\\' => some '\\'
  | 'b' => some '\x08'
  | 'f' => some '\x0c'
  | 'n' => some '\n'
  | 'r' => some '\r'
  | 't' => some '\t'
  | _ => none

def numberedChar? (digits : List Char) : Option Char := do
  let n <- Text.hexNumber? digits
  if n.isValidChar then some (Char.ofNat n) else none

def prepend (c : Char) (result : List Char × List Char) :
    List Char × List Char :=
  (c :: result.1, result.2)

def readQuoted : List Char -> Option (List Char × List Char)
  | [] => none
  | '"' :: rest => some ([], rest)
  | '\\' :: 'u' :: a :: b :: c :: d :: rest => do
      let char <- numberedChar? [a, b, c, d]
      (readQuoted rest).map (prepend char)
  | '\\' :: 'U' :: a :: b :: c :: d :: e :: f :: g :: h :: rest => do
      let char <- numberedChar? [a, b, c, d, e, f, g, h]
      (readQuoted rest).map (prepend char)
  | '\\' :: c :: rest => do
      let char <- letterEscape? c
      (readQuoted rest).map (prepend char)
  | c :: rest =>
      if isPlain c then (readQuoted rest).map (prepend c) else none

def readLiteral : List Char -> Option (List Char × List Char)
  | [] => none
  | '\'' :: rest => some ([], rest)
  | c :: rest =>
      if isPlain c then (readLiteral rest).map (prepend c) else none

/-! ## Blocks -/

/-- Whether only blanks stand before the end of the line. -/
def endsLine (cs : List Char) : Bool :=
  match cs.dropWhile (fun c => c == ' ' || c == '\t') with
  | '\n' :: _ => true
  | _ => false

/--
Read a block up to its closing quotes, before which up to two quotes belong to
the text.  A backslash at the end of a line drops all blanks and line ends that
follow; `dropping` says that this is under way.
-/
def readQuotedBlock (dropping : Bool) :
    List Char -> Option (List Char × List Char)
  | [] => none
  | '"' :: '"' :: '"' :: '"' :: '"' :: rest => some (['"', '"'], rest)
  | '"' :: '"' :: '"' :: '"' :: rest => some (['"'], rest)
  | '"' :: '"' :: '"' :: rest => some ([], rest)
  | '\\' :: 'u' :: a :: b :: c :: d :: rest => do
      let char <- numberedChar? [a, b, c, d]
      (readQuotedBlock false rest).map (prepend char)
  | '\\' :: 'U' :: a :: b :: c :: d :: e :: f :: g :: h :: rest => do
      let char <- numberedChar? [a, b, c, d, e, f, g, h]
      (readQuotedBlock false rest).map (prepend char)
  | '\\' :: c :: rest =>
      if endsLine (c :: rest) then
        readQuotedBlock true rest
      else do
        let char <- letterEscape? c
        (readQuotedBlock false rest).map (prepend char)
  | c :: rest =>
      if dropping && (c == ' ' || c == '\t' || c == '\n') then
        readQuotedBlock true rest
      else if isPlain c || c == '\n' then
        (readQuotedBlock false rest).map (prepend c)
      else
        none

def readLiteralBlock : List Char -> Option (List Char × List Char)
  | [] => none
  | '\'' :: '\'' :: '\'' :: '\'' :: '\'' :: rest => some (['\'', '\''], rest)
  | '\'' :: '\'' :: '\'' :: '\'' :: rest => some (['\''], rest)
  | '\'' :: '\'' :: '\'' :: rest => some ([], rest)
  | c :: rest =>
      if isPlain c || c == '\n' then
        (readLiteralBlock rest).map (prepend c)
      else
        none

/-- Drop a line end that directly follows the opening of a block. -/
def dropFirstLineEnd : List Char -> List Char
  | '\n' :: rest => rest
  | cs => cs

def readText? : List Char -> Option (List Char × List Char)
  | '"' :: '"' :: '"' :: rest => readQuotedBlock false (dropFirstLineEnd rest)
  | '"' :: rest => readQuoted rest
  | '\'' :: '\'' :: '\'' :: rest => readLiteralBlock (dropFirstLineEnd rest)
  | '\'' :: rest => readLiteral rest
  | _ => none

end Toml

end Document

end SignalChain
