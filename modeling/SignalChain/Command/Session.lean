import SignalChain.Command.Log
import SignalChain.Record.File

/-!
# Sessions

A command works on files, prints lines, reports to the log, and may fail.  What
was printed and reported before a failure stays.
-/

namespace SignalChain

namespace Command

/-- Why a command failed, and what is behind it. -/
structure Failure where
  message : String
  cause : Option String
deriving DecidableEq

namespace Failure

def ofMessage (message : String) : Failure :=
  ⟨message, none⟩

def ofDocument (e : DocumentError) : Failure :=
  ⟨e.message, e.cause?⟩

def atPath (path : String) (e : DocumentError) : Failure :=
  ofMessage (path ++ ": " ++ e.message)

def lines (f : Failure) : List String :=
  ("Error: " ++ f.message) ::
    match f.cause with
    | none => []
    | some cause => ["", "Caused by:", "    " ++ cause]

end Failure

/-- What a command has printed and reported, the last first. -/
structure Transcript where
  printed : List String
  reported : List Log.Entry

namespace Transcript

def empty : Transcript :=
  ⟨[], []⟩

def lines (t : Transcript) : List String :=
  t.printed.reverse

def log (t : Transcript) : List Log.Entry :=
  t.reported.reverse

end Transcript

structure Setting where
  /-- The directory in which programs keep their configurations. -/
  configurations : String
  /-- Whether all is reported, and not only warnings. -/
  verbose : Bool

abbrev Session (m : Type -> Type) :=
  ReaderT Setting (ExceptT Failure (StateT Transcript m))

namespace Session

variable {m : Type -> Type} [Monad m]

def print (line : String) : Session m Unit :=
  modify (fun t => { t with printed := line :: t.printed })

def printAll (lines : List String) : Session m Unit :=
  lines.forM print

def warn (message : String) : Session m Unit :=
  modify (fun t => { t with reported := ⟨.warn, message, []⟩ :: t.reported })

/-- Report on the work, if that is wanted. -/
def debug (message : String) (values : List (String × String)) :
    Session m Unit := do
  if (<- read).verbose then
    modify (fun t => { t with reported := ⟨.debug, message, values⟩ :: t.reported })
  else
    pure ()

/-- Work with a document; an error becomes a failure. -/
def document {α : Type} (failure : DocumentError -> Failure)
    (action : ExceptT DocumentError m α) : Session m α := do
  match <- (action.run : m (Except DocumentError α)) with
  | .ok a => pure a
  | .error e => throw (failure e)

end Session

end Command

end SignalChain
