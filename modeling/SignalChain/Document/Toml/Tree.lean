import SignalChain.Document.Toml.Section

/-!
# The tables of a TOML text

Sections put together.  Each table knows how it came about, because that
decides what may still be added to it: a table with a header of its own is
closed to other headers and to dotted keys, and one made by dotted keys is
closed to headers.
-/

namespace SignalChain

namespace Document

namespace Toml

/-- How a table came about. -/
inductive Origin where
  /-- By a header of its own. -/
  | headed
  /-- On the way to the table of a longer header. -/
  | implied
  /-- On the way along a dotted key. -/
  | dotted
deriving DecidableEq

inductive Item where
  | value (v : Value)
  | table (origin : Origin) (entries : List (String × Item))
  | tables (elements : List (List (String × Item)))

abbrev Entries :=
  List (String × Item)

/-- Replace the item of a name, or append it. -/
def put (name : String) (item : Item) : Entries -> Entries
  | [] => [(name, item)]
  | (other, old) :: rest =>
      if other = name then (name, item) :: rest
      else (other, old) :: put name item rest

def changeLast? {α : Type} (f : α -> Option α) : List α -> Option (List α)
  | [] => none
  | [last] => (f last).map (fun last => [last])
  | first :: rest => (changeLast? f rest).map (first :: ·)

/-! ## Assignments -/

/--
Assign a value to a name at the end of a dotted key.  The last table on the way
must be one that dotted keys made.
-/
def assign (name : String) (value : Value) :
    List String -> Entries -> Option Entries
  | [], entries =>
      match entries.lookup name with
      | none => some (entries ++ [(name, .value value)])
      | some _ => none
  | parent :: parents, entries =>
      match entries.lookup parent with
      | none => do
          let inner <- assign name value parents []
          some (entries ++ [(parent, .table .dotted inner)])
      | some (.value _) => none
      | some (.table origin inner) =>
          if origin = .headed || (parents.isEmpty && origin != .dotted) then
            none
          else do
            let inner <- assign name value parents inner
            some (put parent (.table origin inner) entries)
      | some (.tables elements) =>
          if parents.isEmpty then
            none
          else do
            let elements <- changeLast? (assign name value parents) elements
            some (put parent (.tables elements) entries)

def assignAll (assignments : List (Key × Value)) (entries : Entries) :
    Option Entries :=
  assignments.foldlM
    (fun entries (key, value) => assign key.name value key.parents entries)
    entries

/-! ## Headers -/

/-- Change the table that a header's names lead to. -/
def changeWithin? (f : Entries -> Option Entries) :
    List String -> Entries -> Option Entries
  | [], entries => f entries
  | parent :: parents, entries =>
      match entries.lookup parent with
      | none => do
          let inner <- changeWithin? f parents []
          some (entries ++ [(parent, .table .implied inner)])
      | some (.value _) => none
      | some (.table origin inner) => do
          let inner <- changeWithin? f parents inner
          some (put parent (.table origin inner) entries)
      | some (.tables elements) => do
          let elements <- changeLast? (changeWithin? f parents) elements
          some (put parent (.tables elements) entries)

/-- Open a table that is new or was only implied, and fill it. -/
def addTable (name : String) (assignments : List (Key × Value))
    (entries : Entries) : Option Entries :=
  match entries.lookup name with
  | none => do
      let inner <- assignAll assignments []
      some (entries ++ [(name, .table .headed inner)])
  | some (.table .implied inner) => do
      let inner <- assignAll assignments inner
      some (put name (.table .headed inner) entries)
  | some _ => none

/-- Append an element to a list of tables, which may be new. -/
def addElement (name : String) (assignments : List (Key × Value))
    (entries : Entries) : Option Entries := do
  let element <- assignAll assignments []
  match entries.lookup name with
  | none => some (entries ++ [(name, .tables [element])])
  | some (.tables elements) =>
      some (put name (.tables (elements ++ [element])) entries)
  | some _ => none

def addSection (entries : Entries) (s : Section) : Option Entries :=
  match s.header with
  | .root => assignAll s.assignments entries
  | .table key =>
      changeWithin? (addTable key.name s.assignments) key.parents entries
  | .element key =>
      changeWithin? (addElement key.name s.assignments) key.parents entries

/-! ## The value -/

mutual

def Item.toValue : Item -> Value
  | .value v => v
  | .table _ entries => .object (fieldsOf entries)
  | .tables elements => .list (elementsOf elements)

def fieldsOf : List (String × Item) -> List (String × Value)
  | [] => []
  | (name, item) :: rest => (name, item.toValue) :: fieldsOf rest

def elementsOf : List (List (String × Item)) -> List Value
  | [] => []
  | entries :: rest => .object (fieldsOf entries) :: elementsOf rest

end

def ofAssignments? (assignments : List (Key × Value)) : Option Value :=
  (assignAll assignments []).map (fun entries => .object (fieldsOf entries))

def ofSections? (sections : List Section) : Option Value :=
  (sections.foldlM addSection []).map
    (fun entries => .object (fieldsOf entries))

end Toml

end Document

end SignalChain
