import SignalChain.Command.Run

/-!
# The program

Runs a command on real files, and writes the outcome to the standard streams.
-/

namespace SignalChain

namespace Storage

/-- The number of a system error; it may come with its sign turned. -/
def errorNumber (code : UInt32) : UInt32 :=
  if code < 0x80000000 then code else 0 - code

def FileError.ofNumber (code : UInt32) (details : String) : FileError :=
  match errorNumber code with
  | 2 => .notFound
  | 17 => .alreadyExists
  | 20 => .notDirectory
  | 21 => .isDirectory
  | 36 => .nameTooLong
  | n =>
      .other (details ++ " (os error " ++
        String.ofList (Decimal.natText n.toNat) ++ ")")

def FileError.ofSystem : IO.Error -> FileError
  | .noFileOrDirectory _ code details => ofNumber code details
  | .alreadyExists _ code details => ofNumber code details
  | .inappropriateType _ code details => ofNumber code details
  | .invalidArgument _ code details => ofNumber code details
  | .permissionDenied _ code details => ofNumber code details
  | .resourceExhausted _ code details => ofNumber code details
  | .otherError code details => ofNumber code details
  | e => .other (toString e)

def attempt {α : Type} (action : IO α) : IO (Except FileError α) := do
  match <- action.toBaseIO with
  | .ok a => pure (.ok a)
  | .error e => pure (.error (FileError.ofSystem e))

/-- Whether an attempt found anything, even if it could not be used. -/
def foundAnything {α : Type} : Except FileError α -> Bool
  | .error .notFound => false
  | .error .notDirectory => false
  | .error .nameTooLong => false
  | _ => true

def readSystemText (path : String) : IO (Except FileError String) := do
  match <- attempt (IO.FS.readBinFile path) with
  | .error e => pure (.error e)
  | .ok bytes =>
      match String.fromUTF8? bytes with
      | some text => pure (.ok text)
      | none => pure (.error .notText)

instance : FileStore IO where
  isPresent path := do
    pure (foundAnything (<- attempt (IO.FS.Handle.mk path .read)))
  isDirectory path := do
    match <- attempt (IO.FS.readBinFile path) with
    | .error .isDirectory => pure true
    | _ => pure false
  readText := readSystemText
  writeText path text := attempt (IO.FS.writeFile path text)
  makeDirectory path := attempt (IO.FS.createDir path)

end Storage

namespace Command

def configurations : IO String := do
  match <- IO.getEnv "XDG_CONFIG_HOME" with
  | some directory =>
      if Storage.Path.isAbsolute directory then
        return directory
  | none => pure ()
  match <- IO.getEnv "HOME" with
  | some home => pure (Storage.Path.join home ".config")
  | none => pure "."

def Outcome.write (outcome : Outcome) : IO Unit := do
  let failed := (outcome.failure.map Failure.lines).getD []
  let refused := if outcome.exitCode = 2 then usageLines else []
  IO.eprint
    (Text.ofLines (outcome.log.map Log.Entry.text ++ failed ++ refused))
  IO.print outcome.output

end Command

end SignalChain

def main (arguments : List String) : IO UInt32 := do
  let configurations <- SignalChain.Command.configurations
  let outcome : SignalChain.Command.Outcome <-
    SignalChain.Command.runArguments configurations arguments
  outcome.write
  pure (UInt32.ofNat outcome.exitCode)
