/-!
# Paths

Paths of files as text.  A slash separates names; repeated slashes and single
points between names say nothing.
-/

namespace SignalChain

namespace Storage

namespace Path

/-- The pieces between slashes, empty ones included. -/
def pieces : List Char -> List (List Char)
  | [] => [[]]
  | c :: rest =>
      if c = '/' then
        [] :: pieces rest
      else
        match pieces rest with
        | [] => [[c]]
        | piece :: others => (c :: piece) :: others

def steps (path : String) : List String :=
  ((pieces path.toList).filter (fun piece => !piece.isEmpty)).map String.ofList

/-- The names on a path; a single point is no name. -/
def names (path : String) : List String :=
  (steps path).filter (fun step => step != ".")

def isAbsolute (path : String) : Bool :=
  path.toList.head? == some '/'

def endsInSlash (path : String) : Bool :=
  path.toList.getLast? == some '/'

/-- The last name of a path, if it names something in its directory. -/
def fileName? (path : String) : Option String :=
  (names path).getLast?.filter (fun name => name != "..")

/-- What follows the last point of a name that does not begin there. -/
def extensionOf? (name : List Char) : Option (List Char) :=
  let tail := (name.reverse.takeWhile (fun c => c != '.')).reverse
  if tail.length + 1 < name.length then some tail else none

def extension? (path : String) : Option String :=
  (fileName? path).bind
    (fun name => (extensionOf? name.toList).map String.ofList)

/-- Drop slashes and single points at the end of a path read backwards. -/
def dropIdleEnd : List Char -> List Char
  | '/' :: rest => dropIdleEnd rest
  | '.' :: '/' :: rest => dropIdleEnd rest
  | cs => cs

def parent (path : String) : String :=
  let name := dropIdleEnd path.toList.reverse
  let rest := dropIdleEnd (name.dropWhile (fun c => c != '/'))
  if rest.isEmpty && isAbsolute path then "/" else String.ofList rest.reverse

/-- A name inside a directory.  An absolute name stays as it is. -/
def join (directory name : String) : String :=
  if isAbsolute name then name
  else if directory.isEmpty || endsInSlash directory then directory ++ name
  else directory ++ "/" ++ name

/--
What paths are compared by: the slash that an absolute path begins with, then
the names.  A point that a relative path begins with is kept, others are not.
-/
def components (path : String) : List String :=
  if isAbsolute path then "/" :: names path
  else if (steps path).head? == some "." then "." :: names path
  else names path

def isInside (directory path : String) : Bool :=
  (components directory).isPrefixOf (components path)

end Path

end Storage

end SignalChain
