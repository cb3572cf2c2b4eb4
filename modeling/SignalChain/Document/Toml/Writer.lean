import SignalChain.Document.Toml.Layout

/-!
# Writing TOML

The fields of a table that are no tables come first, and its tables follow
under headers of their own.  A table that holds nothing but tables needs no
header.  There is no form for null, for integers of more than 63 bits and for a
document that is no table.
-/

namespace SignalChain

namespace Document

namespace Toml

/-! ## What can be written -/

mutual

def isWritable : Value -> Bool
  | .null => false
  | .bool _ => true
  | .int n => isSigned64 n
  | .float _ => true
  | .text _ => true
  | .list items => areWritable items
  | .object fields => haveWritable fields
  | .unusable => false

def areWritable : List Value -> Bool
  | [] => true
  | item :: items => isWritable item && areWritable items

def haveWritable : List (String × Value) -> Bool
  | [] => true
  | (_, value) :: fields => isWritable value && haveWritable fields

end

/-! ## Sections of a table -/

def isTable : Value -> Bool
  | .object _ => true
  | _ => false

/-- Whether a value is a list of tables with at least one element. -/
def isTableList : Value -> Bool
  | .list items => !items.isEmpty && items.all isTable
  | _ => false

/-- The assignments of a table under its own header. -/
def ownAssignments (fields : List (String × Value)) : List (Key × Value) :=
  (fields.filter (fun field => !isTable field.2 && !isTableList field.2)).map
    (fun field => (⟨[], field.1⟩, field.2))

def needsHeader (fields : List (String × Value)) : Bool :=
  fields.isEmpty || !(ownAssignments fields).isEmpty

mutual

/-- The sections of the tables among some fields; `names` lead to the fields. -/
def innerSections (names : List String) : List (String × Value) -> List Section
  | [] => []
  | (name, .object fields) :: rest =>
      let inner := innerSections (names ++ [name]) fields
      let own := ⟨.table ⟨names, name⟩, ownAssignments fields⟩
      (if needsHeader fields then own :: inner else inner) ++
        innerSections names rest
  | (name, .list items) :: rest =>
      (if isTableList (.list items) then elementSections names name items
        else []) ++ innerSections names rest
  | _ :: rest => innerSections names rest

def elementSections (names : List String) (name : String) :
    List Value -> List Section
  | [] => []
  | .object fields :: rest =>
      ⟨.element ⟨names, name⟩, ownAssignments fields⟩ ::
        innerSections (names ++ [name]) fields ++
        elementSections names name rest
  | _ :: rest => elementSections names name rest

end

def sectionsOf (fields : List (String × Value)) : List Section :=
  ⟨.root, ownAssignments fields⟩ :: innerSections [] fields

/-! ## Text -/

def assignmentText (assignment : Key × Value) : List Char :=
  keyForm assignment.1 ++ ' ' :: '=' :: ' ' :: valueForm assignment.2 ++ ['\n']

def headerText : Header -> List Char
  | .root => []
  | .table key => '[' :: keyForm key ++ [']', '\n']
  | .element key => '[' :: '[' :: keyForm key ++ [']', ']', '\n']

/-- A section, without what separates it from the one before. -/
def sectionText (s : Section) : List Char :=
  headerText s.header ++ s.assignments.flatMap assignmentText

/-- Sections with an empty line between those that have text. -/
def sectionsText (sections : List Section) : List Char :=
  List.intercalate ['\n']
    ((sections.map sectionText).filter (fun text => !text.isEmpty))

def write? : Value -> Option String
  | .object fields =>
      if haveWritable fields then
        some (String.ofList (sectionsText (sectionsOf fields)))
      else
        none
  | _ => none

end Toml

end Document

end SignalChain
