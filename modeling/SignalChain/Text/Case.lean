import SignalChain.Text.CaseTable

/-!
# Letter case

Upper and lower case as Unicode defines them, and the lowercase form of a
text.  A text is lowercased as a whole: a capital sigma at the end of a word
has a form of its own, and a dotted capital I becomes two characters.
-/

namespace SignalChain

namespace Text

def inRuns (runs : List CodeRun) (c : Char) : Bool :=
  runs.any (fun run => run.covers c.toNat)

def isUppercase (c : Char) : Bool :=
  if c.toNat < 128 then c.isUpper else inRuns uppercaseRuns c

def isLowercase (c : Char) : Bool :=
  if c.toNat < 128 then c.isLower else inRuns lowercaseRuns c

def isCased (c : Char) : Bool :=
  isUppercase c || isLowercase c || inRuns titlecaseRuns c

/-- Whether a character is passed over when a letter's neighbour is sought. -/
def isCaseIgnorable (c : Char) : Bool :=
  if c.toNat < 128 then
    c == '\'' || c == '.' || c == ':' || c == '^' || c == '\x60'
  else
    inRuns caseIgnorableRuns c

/-- The lowercase character of a character that has a single one. -/
def shiftLower (c : Char) : Char :=
  if c.toNat < 128 then
    c.toLower
  else
    match lowercaseShifts.find? (fun shift => shift.run.covers c.toNat) with
    | none => c
    | some shift => Char.ofNat ((c.toNat : Int) + shift.offset).toNat

def lowercaseChar (c : Char) : List Char :=
  if c == 'İ' then ['i', '\u0307'] else [shiftLower c]

/-- Whether the nearest character that counts is a cased one. -/
def meetsCased (cs : List Char) : Bool :=
  match cs.dropWhile isCaseIgnorable with
  | [] => false
  | c :: _ => isCased c

/-- A sigma ends its word when a letter stands before it and none after. -/
def lowercaseSigma (before after : List Char) : Char :=
  if meetsCased before && !meetsCased after then 'ς' else 'σ'

/-- Lowercase a text that follows `before`, which is read backwards. -/
def lowercaseAfter (before : List Char) : List Char -> List Char
  | [] => []
  | c :: rest =>
      (if c == 'Σ' then [lowercaseSigma before rest] else lowercaseChar c) ++
        lowercaseAfter (c :: before) rest

def lowercase (cs : List Char) : List Char :=
  lowercaseAfter [] cs

/-- The text with its ASCII letters in lower case and all else unchanged. -/
def lowercaseAscii (cs : List Char) : List Char :=
  cs.map Char.toLower

end Text

end SignalChain
