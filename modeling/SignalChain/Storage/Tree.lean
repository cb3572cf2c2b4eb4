import SignalChain.Storage.Basic
import SignalChain.Table

/-!
# Trees of files

A file system as a value: the files and directories below one directory, which
is where relative paths begin and which also has an absolute path.  Nothing is
known of what lies outside.
-/

namespace SignalChain

namespace Storage

inductive Entry where
  | file (text : String)
  | directory
deriving DecidableEq

/-- Files and directories by the names that lead to them. -/
structure FileTree where
  home : String
  entries : Table (List String) Entry
deriving DecidableEq

namespace FileTree

def empty (home : String) : FileTree :=
  ⟨home, Table.empty⟩

def entry? (t : FileTree) (place : List String) : Option Entry :=
  if place.isEmpty then some .directory else t.entries.get? place

def set (t : FileTree) (place : List String) (e : Entry) : FileTree :=
  { t with entries := t.entries.insert place e }

/-! ## Following a path -/

/-- The longest name of a file, in bytes. -/
def longestName : Nat :=
  255

/-- The longest path, in bytes. -/
def longestPath : Nat :=
  4095

/-- Follow the steps of a path from a place, through directories only. -/
def walk (t : FileTree) (place : List String) :
    List String -> Except FileError (List String)
  | [] => .ok place
  | step :: steps =>
      match t.entry? place with
      | none => .error .notFound
      | some (.file _) => .error .notDirectory
      | some .directory =>
          if step = "." then
            t.walk place steps
          else if step = ".." then
            if place.isEmpty then .error .notFound
            else t.walk place.dropLast steps
          else if longestName < step.utf8ByteSize then
            .error .nameTooLong
          else
            t.walk (place ++ [step]) steps

/-- The path from the tree's own directory, if the path leads there. -/
def relative? (t : FileTree) (path : String) : Option (List String) :=
  let steps := Path.steps path
  let home := Path.steps t.home
  if home.isPrefixOf steps && Path.isAbsolute path == Path.isAbsolute t.home then
    some (steps.drop home.length)
  else if Path.isAbsolute path then none
  else some steps

/-- The place that a path means; nothing need be there. -/
def locate (t : FileTree) (path : String) : Except FileError (List String) :=
  if path.toList.contains '\x00' then .error .zeroInName
  else if path.isEmpty then .error .notFound
  else if longestPath < path.utf8ByteSize then .error .nameTooLong
  else
    match t.relative? path with
    | none => .error .notFound
    | some steps => t.walk [] steps

def find (t : FileTree) (path : String) : Except FileError Entry := do
  let place <- t.locate path
  match t.entry? place with
  | none => .error .notFound
  | some .directory => .ok .directory
  | some (.file text) =>
      if Path.endsInSlash path then .error .notDirectory else .ok (.file text)

/-! ## Operations -/

def isPresent (t : FileTree) (path : String) : Bool :=
  (t.find path).toBool

def isDirectory (t : FileTree) (path : String) : Bool :=
  match t.find path with
  | .ok .directory => true
  | _ => false

def readText (t : FileTree) (path : String) : Except FileError String :=
  match t.find path with
  | .ok (.file text) => .ok text
  | .ok .directory => .error .isDirectory
  | .error e => .error e

def writeText (t : FileTree) (path text : String) :
    Except FileError FileTree := do
  let place <- t.locate path
  if Path.endsInSlash path then .error .isDirectory
  else
    match t.entry? place.dropLast, t.entry? place with
    | some .directory, some .directory => .error .isDirectory
    | some .directory, _ => .ok (t.set place (.file text))
    | some (.file _), _ => .error .notDirectory
    | none, _ => .error .notFound

def makeDirectory (t : FileTree) (path : String) :
    Except FileError FileTree := do
  let place <- t.locate path
  match t.entry? place with
  | some _ => .error .alreadyExists
  | none => .ok (t.set place .directory)

/-- Go on with the tree that an operation made, or with the one before it. -/
def update (operation : FileTree -> Except FileError FileTree) :
    StateM FileTree (Except FileError Unit) := fun t =>
  match operation t with
  | .ok changed => (.ok (), changed)
  | .error e => (.error e, t)

instance : FileStore (StateM FileTree) where
  isPresent path := do pure ((<- get).isPresent path)
  isDirectory path := do pure ((<- get).isDirectory path)
  readText path := do pure ((<- get).readText path)
  writeText path text := update (fun t => t.writeText path text)
  makeDirectory path := update (fun t => t.makeDirectory path)

def files (t : FileTree) : List (String × String) :=
  t.entries.toList.filterMap (fun (place, e) =>
    match e with
    | .file text => some (String.intercalate "/" place, text)
    | .directory => none)

def addFile (path text : String) : StateM FileTree Unit := do
  let _ <- makeDirectories (m := StateM FileTree) (Path.parent path)
  let _ <- FileStore.writeText (m := StateM FileTree) path text

/-- The files of a tree that an earlier one lacks or has with another text. -/
def filesSince (t before : FileTree) : List (String × String) :=
  t.files.filter (fun file => !before.files.contains file)

end FileTree

end Storage

end SignalChain
