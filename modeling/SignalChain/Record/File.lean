import SignalChain.Record.Basic
import SignalChain.Record.Catalog
import SignalChain.Record.Design
import SignalChain.Record.Rig
import SignalChain.Rig.Validation
import SignalChain.Storage.Basic

/-!
# Records in files

Loading a record from a file and saving it, in the format that the file's
extension names.
-/

namespace SignalChain

open Document Storage

inductive DocumentError where
  | cannotRead (path : String) (cause : FileError)
  | cannotWrite (path : String) (cause : FileError)
  | cannotMake (path : String) (cause : FileError)
  | unsupportedFormat (path : String)
  /-- The text holds no such record. -/
  | unreadable (format : Format)
  /-- The format has no text for the record. -/
  | unwritable (format : Format)
  | malformed (cause : StructureError)
deriving DecidableEq

namespace DocumentError

def unreadableMessage : Format -> String
  | .json => "invalid JSON:"
  | .toml => "failed to parse TOML:"

def unwritableMessage : Format -> String
  | .json => "invalid JSON:"
  | .toml => "failed to serialize TOML:"

def message : DocumentError -> String
  | .cannotRead path cause =>
      "failed to read file '" ++ path ++ "': " ++ cause.message
  | .cannotWrite path cause =>
      "failed to write file '" ++ path ++ "': " ++ cause.message
  | .cannotMake path cause =>
      "failed to create directory '" ++ path ++ "': " ++ cause.message
  | .unsupportedFormat path =>
      "unsupported document format for '" ++ path ++
        "' (expected .json or .toml)"
  | .unreadable format => unreadableMessage format
  | .unwritable format => unwritableMessage format
  | .malformed cause => "validation failed: " ++ cause.message

def cause? : DocumentError -> Option String
  | .cannotRead _ cause => some cause.message
  | .cannotWrite _ cause => some cause.message
  | .cannotMake _ cause => some cause.message
  | .malformed cause => some cause.message
  | _ => none

end DocumentError

namespace Record

def parse {α : Type} [Record α] (format : Format) (text : String) :
    Except DocumentError α :=
  match read? format text with
  | some a => .ok a
  | none => .error (.unreadable format)

def render {α : Type} [Written α] (format : Format) (a : α) :
    Except DocumentError String :=
  match write? format a with
  | some text => .ok text
  | none => .error (.unwritable format)

variable {m : Type -> Type} [Monad m] [FileStore m]

def formatOf (path : String) : Except DocumentError Format :=
  match Format.ofPath? path with
  | some format => .ok format
  | none => .error (.unsupportedFormat path)

def load {α : Type} [Record α] (path : String) :
    ExceptT DocumentError m α := do
  let format <- formatOf path
  match <- FileStore.readText (m := m) path with
  | .error e => throw (.cannotRead path e)
  | .ok text => parse format text

def ensureDirectory (path : String) : ExceptT DocumentError m Unit := do
  if <- FileStore.isPresent (m := m) path then
    pure ()
  else
    match <- makeDirectories (m := m) path with
    | .error e => throw (.cannotMake path e)
    | .ok () => pure ()

def ensureParent (path : String) : ExceptT DocumentError m Unit :=
  if (Path.parent path).isEmpty then pure ()
  else ensureDirectory (Path.parent path)

/--
Save a record to a file.  The directory of the file is made before the text is
rendered, and the file is written last.
-/
def save {α : Type} [Written α] (a : α) (path : String) :
    ExceptT DocumentError m Unit := do
  let format <- formatOf path
  ensureParent path
  let text <- render format a
  match <- FileStore.writeText (m := m) path text with
  | .error e => throw (.cannotWrite path e)
  | .ok () => pure ()

end Record

section Files

variable {m : Type -> Type} [Monad m] [FileStore m]

def Rig.load (path : String) : ExceptT DocumentError m (Rig Float) :=
  Record.load path

def Rig.loadValidated (path : String) :
    ExceptT DocumentError m (Rig Float × List (Warning Float)) := do
  let r <- Rig.load path
  match r.validate with
  | .error e => throw (.malformed e)
  | .ok warnings => pure (r, warnings)

def Design.load (path : String) : ExceptT DocumentError m Design :=
  Record.load path

def CatalogEntry.loadAll (path : String) :
    ExceptT DocumentError m (List (CatalogEntry Float)) :=
  Record.load path

end Files

end SignalChain
