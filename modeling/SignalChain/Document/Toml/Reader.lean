import SignalChain.Document.Toml.Moment
import SignalChain.Document.Toml.Number
import SignalChain.Document.Toml.Quoted
import SignalChain.Document.Toml.Tree

/-!
# Reading TOML

A text is read line by line into sections, which are then put together.  A
date or time is read as an object with a single field of a reserved name.
Values nest at most 79 deep and keys have at most 79 names.
-/

namespace SignalChain

namespace Document

namespace Toml

/-- Values may nest this deep, and keys may have this many names. -/
def depthLimit : Nat :=
  79

/-- The field that holds the text of a date or time. -/
def momentField : String :=
  "$__toml_private_datetime"

def Moment.toValue (m : Moment) : Value :=
  .object [(momentField, .text m.text)]

/-! ## Between values -/

def skipBlank (cs : List Char) : List Char :=
  cs.dropWhile (fun c => c == ' ' || c == '\t')

/-- Drop blanks, line ends and comments; `comment` says that one is under way. -/
def skipLines (comment : Bool) : List Char -> List Char
  | [] => []
  | c :: rest =>
      if c == '\n' then skipLines false rest
      else if comment then
        if isPlain c then skipLines true rest else c :: rest
      else if c == ' ' || c == '\t' then skipLines false rest
      else if c == '#' then skipLines true rest
      else c :: rest

def skipComment : List Char -> List Char
  | '#' :: rest => rest.dropWhile isPlain
  | cs => cs

/-- Drop the rest of a line, which may hold nothing but a comment. -/
def endLine? (cs : List Char) : Option (List Char) :=
  match skipComment (skipBlank cs) with
  | [] => some []
  | '\n' :: rest => some rest
  | _ => none

/-! ## Keys -/

def readName? (cs : List Char) : Option (String × List Char) :=
  match cs with
  | '"' :: rest =>
      (readQuoted rest).map (fun (name, rest) => (String.ofList name, rest))
  | '\'' :: rest =>
      (readLiteral rest).map (fun (name, rest) => (String.ofList name, rest))
  | cs =>
      match cs.takeWhile isBare with
      | [] => none
      | name => some (String.ofList name, cs.dropWhile isBare)

def readNames? (fuel : Nat) (cs : List Char) :
    Option (List String × List Char) :=
  match fuel with
  | 0 => none
  | fuel + 1 => do
      let (name, rest) <- readName? (skipBlank cs)
      match skipBlank rest with
      | '.' :: rest => do
          let (names, rest) <- readNames? fuel rest
          some (name :: names, rest)
      | rest => some ([name], rest)

def readKey? (cs : List Char) : Option (Key × List Char) := do
  let (names, rest) <- readNames? depthLimit cs
  let key <- Key.ofNames? names
  some (key, rest)

/-! ## Values -/

def readScalar? (cs : List Char) : Option (Value × List Char) :=
  match cs with
  | 't' :: 'r' :: 'u' :: 'e' :: rest => some (.bool true, rest)
  | 'f' :: 'a' :: 'l' :: 's' :: 'e' :: rest => some (.bool false, rest)
  | cs =>
      match readText? cs with
      | some (text, rest) => some (.text (String.ofList text), rest)
      | none =>
          match readMoment? cs with
          | some (moment, rest) => some (moment.toValue, rest)
          | none => readNumber? cs

def readItems? (readItem : List Char -> Option (Value × List Char))
    (fuel : Nat) (cs : List Char) : Option (List Value × List Char) :=
  match fuel with
  | 0 => none
  | fuel + 1 =>
      match skipLines false cs with
      | ']' :: rest => some ([], rest)
      | cs => do
          let (item, rest) <- readItem cs
          match skipLines false rest with
          | ',' :: rest => do
              let (items, rest) <- readItems? readItem fuel rest
              some (item :: items, rest)
          | ']' :: rest => some ([item], rest)
          | _ => none

def readAssignment? (readItem : List Char -> Option (Value × List Char))
    (cs : List Char) : Option ((Key × Value) × List Char) := do
  let (key, rest) <- readKey? cs
  let rest <- readMark? '=' rest
  let (value, rest) <- readItem (skipBlank rest)
  some ((key, value), rest)

def readPairs? (readItem : List Char -> Option (Value × List Char))
    (fuel : Nat) (cs : List Char) : Option (List (Key × Value) × List Char) :=
  match fuel with
  | 0 => none
  | fuel + 1 => do
      let (pair, rest) <- readAssignment? readItem cs
      match skipBlank rest with
      | ',' :: rest => do
          let (pairs, rest) <- readPairs? readItem fuel rest
          some (pair :: pairs, rest)
      | '\x7d' :: rest => some ([pair], rest)
      | _ => none

def readInline? (readItem : List Char -> Option (Value × List Char))
    (cs : List Char) : Option (Value × List Char) :=
  match skipBlank cs with
  | '\x7d' :: rest => some (.object [], rest)
  | cs => do
      let (pairs, rest) <- readPairs? readItem cs.length cs
      let table <- ofAssignments? pairs
      some (table, rest)

/-- Read a value with at most `depth` lists and inline tables in each other. -/
def readValue? (depth : Nat) (cs : List Char) : Option (Value × List Char) :=
  match depth with
  | 0 => readScalar? cs
  | depth + 1 =>
      match cs with
      | '[' :: rest => do
          let (items, rest) <- readItems? (readValue? depth) cs.length rest
          some (.list items, rest)
      | '\x7b' :: rest => readInline? (readValue? depth) rest
      | cs => readScalar? cs

/-! ## Sections -/

def readHeader? (cs : List Char) : Option (Header × List Char) :=
  match cs with
  | '[' :: rest => do
      let (key, rest) <- readKey? rest
      let rest <- readMark? ']' rest
      let rest <- readMark? ']' rest
      let rest <- endLine? rest
      some (.element key, rest)
  | rest => do
      let (key, rest) <- readKey? rest
      let rest <- readMark? ']' rest
      let rest <- endLine? rest
      some (.table key, rest)

/--
Read the sections of a text, of which the first has a header and assignments,
the last of them in front, already.
-/
def readSections? (fuel : Nat) (header : Header)
    (assignments : List (Key × Value)) (cs : List Char) :
    Option (List Section) :=
  match fuel with
  | 0 => none
  | fuel + 1 =>
      match skipLines false cs with
      | [] => some [⟨header, assignments.reverse⟩]
      | '[' :: rest => do
          let (next, rest) <- readHeader? rest
          let sections <- readSections? fuel next [] rest
          some (⟨header, assignments.reverse⟩ :: sections)
      | cs => do
          let (assignment, rest) <- readAssignment? (readValue? depthLimit) cs
          let rest <- endLine? rest
          readSections? fuel header (assignment :: assignments) rest

def joinLineEnds : List Char -> List Char
  | [] => []
  | '\r' :: '\n' :: rest => '\n' :: joinLineEnds rest
  | c :: rest => c :: joinLineEnds rest

def dropMark : List Char -> List Char
  | '\uFEFF' :: rest => rest
  | cs => cs

def read? (text : String) : Option Value := do
  let cs := joinLineEnds (dropMark text.toList)
  let sections <- readSections? (cs.length + 1) .root [] cs
  ofSections? sections

end Toml

end Document

end SignalChain
