import SignalChain.Storage.Path

/-!
# Files

What the library needs of a file system.  The operations are those of a class,
so that programs run on real files and laws are stated about trees of files
that are plain values.
-/

namespace SignalChain

namespace Storage

inductive FileError where
  | notFound
  | alreadyExists
  | notDirectory
  | isDirectory
  | nameTooLong
  | zeroInName
  | notText
  | other (message : String)
deriving DecidableEq

def FileError.message : FileError -> String
  | .notFound => "No such file or directory (os error 2)"
  | .alreadyExists => "File exists (os error 17)"
  | .notDirectory => "Not a directory (os error 20)"
  | .isDirectory => "Is a directory (os error 21)"
  | .nameTooLong => "File name too long (os error 36)"
  | .zeroInName => "file name contained an unexpected NUL byte"
  | .notText => "stream did not contain valid UTF-8"
  | .other message => message

class FileStore (m : Type -> Type) where
  isPresent : String -> m Bool
  isDirectory : String -> m Bool
  readText : String -> m (Except FileError String)
  writeText : String -> String -> m (Except FileError Unit)
  makeDirectory : String -> m (Except FileError Unit)

section Directories

variable {m : Type -> Type} [Monad m] [FileStore m]

/-- Make a directory; one that is there already is fine. -/
def settleDirectory (path : String) (result : Except FileError Unit) :
    m (Except FileError Unit) := do
  match result with
  | .ok () => pure (.ok ())
  | .error e =>
      if <- FileStore.isDirectory path then pure (.ok ()) else pure (.error e)

/-- Make a directory, and first the ones above it that are missing. -/
def makeDirectoriesWithin (fuel : Nat) (path : String) :
    m (Except FileError Unit) := do
  match fuel with
  | 0 => pure (.ok ())
  | fuel + 1 =>
      if path.isEmpty then
        pure (.ok ())
      else
        match <- FileStore.makeDirectory path with
        | .error .notFound =>
            match <- makeDirectoriesWithin fuel (Path.parent path) with
            | .error e => pure (.error e)
            | .ok () =>
                settleDirectory path (<- FileStore.makeDirectory path)
        | result => settleDirectory path result

def makeDirectories (path : String) : m (Except FileError Unit) :=
  makeDirectoriesWithin ((Path.steps path).length + 1) path

end Directories

end Storage

end SignalChain
