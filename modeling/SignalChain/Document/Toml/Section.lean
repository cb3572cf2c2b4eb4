import SignalChain.Document.Value

/-!
# Sections of a TOML text

A TOML text is a list of sections: assignments under the header of a table, of
an element of a list of tables, or under no header at all.  Reading and
writing meet here.
-/

namespace SignalChain

namespace Document

namespace Toml

/-- A key with the names of the tables on the way to it. -/
structure Key where
  parents : List String
  name : String
deriving DecidableEq

namespace Key

def names (k : Key) : List String :=
  k.parents ++ [k.name]

def ofNames? (names : List String) : Option Key :=
  names.getLast?.map (fun name => ⟨names.dropLast, name⟩)

end Key

/-- Where the assignments of a section belong. -/
inductive Header where
  | root
  | table (key : Key)
  /-- A new element of a list of tables. -/
  | element (key : Key)

structure Section where
  header : Header
  assignments : List (Key × Value)

/-- Whether a character may stand in a name without quotes. -/
def isBare (c : Char) : Bool :=
  c.isAlphanum || c == '_' || c == '-'

/-- Whether a character may stand in a comment or between quotes. -/
def isPlain (c : Char) : Bool :=
  c == '\t' || (' ' <= c && c != '\x7f')

end Toml

end Document

end SignalChain
