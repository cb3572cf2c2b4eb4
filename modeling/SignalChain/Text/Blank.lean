/-!
# White space

The characters with the property White_Space, removal of white space at the
two ends of a text, and the words between white space.
-/

namespace SignalChain

namespace Text

/-- White space beyond the one-byte characters. -/
def wideBlanks : List Nat :=
  [0x1680, 0x2000, 0x2001, 0x2002, 0x2003, 0x2004, 0x2005, 0x2006, 0x2007,
    0x2008, 0x2009, 0x200A, 0x2028, 0x2029, 0x202F, 0x205F, 0x3000]

def isBlank (c : Char) : Bool :=
  c == ' ' || (9 <= c.toNat && c.toNat <= 13) || c.toNat == 0x85 ||
    c.toNat == 0xA0 || wideBlanks.contains c.toNat

def trim (cs : List Char) : List Char :=
  ((cs.dropWhile isBlank).reverse.dropWhile isBlank).reverse

/-- The words of a text, with the characters of the word under way. -/
def wordsFrom (word : List Char) : List Char -> List (List Char)
  | [] => if word.isEmpty then [] else [word.reverse]
  | c :: rest =>
      if isBlank c then
        if word.isEmpty then wordsFrom [] rest
        else word.reverse :: wordsFrom [] rest
      else
        wordsFrom (c :: word) rest

def words (cs : List Char) : List (List Char) :=
  wordsFrom [] cs

def unwords : List (List Char) -> List Char
  | [] => []
  | [word] => word
  | word :: rest => word ++ ' ' :: unwords rest

end Text

end SignalChain
