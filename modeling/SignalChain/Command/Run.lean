import SignalChain.Command.Arguments
import SignalChain.Command.Report
import SignalChain.Command.Session
import SignalChain.Record.View

/-!
# Running commands

What each command does, with the log that it keeps, and the outcome of a whole
run: what is printed, what is reported, and whether the run failed.
-/

namespace SignalChain

namespace Command

open Storage

section Sessions

variable {m : Type -> Type} [Monad m] [FileStore m]

/-! ## Settings -/

def requireCeiling (what : String) (x : Float) : Session m Unit :=
  if Settings.isCeiling x then
    pure ()
  else
    throw (Failure.ofMessage
      (what ++ " must be a positive number, got " ++ Decimal.messageText x))

/-- Load the settings; without a file they are the default ones. -/
def loadSettings (path : String) : Session m Settings := do
  if <- FileStore.isPresent (m := m) path then
    let settings : Settings <-
      Session.document Failure.ofDocument (Record.load path)
    requireCeiling (path ++ ": platform_ceiling") settings.ceiling
    Session.debug "loaded settings" [("path", path)]
    pure settings
  else
    Session.debug "no settings file, using defaults" [("path", path)]
    pure Settings.default

def initSettings (force : Bool) (settings : Settings) (path : String) :
    Session m Unit := do
  let found <- FileStore.isPresent (m := m) path
  if found && !force then
    throw (Failure.ofMessage
      (path ++ " already exists (use --force to overwrite)"))
  let directory := Settings.directory (<- read).configurations
  if Path.isInside directory path then
    Session.document Failure.ofDocument (Record.ensureDirectory directory)
  Session.document Failure.ofDocument (Record.save settings path)
  Session.print ("Wrote " ++ path)

def runSettings (init force : Bool) (settings : Settings) (path : String) :
    Session m Unit := do
  if init then
    initSettings force settings path
  else
    let found <- FileStore.isPresent (m := m) path
    Session.printAll (settingsLines path found settings)

/-! ## Rigs -/

def attachDesign (design : Option String) (r : Rig Float) :
    Session m (Rig Float) := do
  match design with
  | none => pure r
  | some path =>
      let design <- Session.document (Failure.atPath path) (Design.load path)
      Session.debug "attaching design"
        [("snapshots", countText design.snapshots.length)]
      pure (r.withDesign design)

def attachCatalog (catalog : Option String) (r : Rig Float) :
    Session m (Rig Float) := do
  match catalog with
  | none => pure r
  | some path =>
      let entries <-
        Session.document (Failure.atPath path) (CatalogEntry.loadAll path)
      let r := r.withCatalog entries
      Session.debug "loaded catalog" [("models", countText r.costs.size)]
      pure r

def loadRig (source : RigSource) : Session m (Rig Float) := do
  let r <- Session.document (Failure.atPath source.rig) (Rig.load source.rig)
  let r <- attachDesign source.design r
  let r <- attachCatalog source.catalog r
  let r :=
    match source.family with
    | none => r
    | some family => r.withFamily family
  match r.validate with
  | .error e => throw (Failure.ofMessage e.message)
  | .ok warnings =>
      warnings.forM (fun w => Session.warn w.message)
      pure r

def flagText (b : Bool) : String :=
  if b then "true" else "false"

def reportStage (b : ResolvedBlock Float) : Session m Unit :=
  Session.debug "resolved block"
    [("block", b.id.text), ("enabled", flagText b.enabled),
      ("source", b.source.logText), ("design_shift", flagText b.designShift)]

def reportView (index : Nat) (v : View Float) : Session m Unit := do
  let blocks := v.chain.blocks
  let instrument := (blocks.head?.map (fun b => b.id.isInstrument)).getD false
  Session.debug "assembled chain"
    [("blocks", countText blocks.length), ("instrument", flagText instrument)]
  let selected :=
    match v.chain.snapshot with
    | none => []
    | some s => [("selected", Log.quoted s.name)]
  Session.debug "resolving snapshot"
    (("index", countText index) :: selected ++
      [("blocks", countText blocks.length)])
  blocks.forM reportStage
  let level := (v.budget.withCeiling Budget.platformCeiling).level
  Session.debug "dsp budget"
    [("total", Decimal.logText v.budget.total), ("level", level.label)]

def viewOf (ceiling : Float) (r : Rig Float) (index : Nat) :
    Session m (View Float) := do
  let engine : Engine Float := Engine.standard
  match (engine.withCeiling ceiling).resolve r index with
  | .error e => throw (Failure.ofMessage e.message)
  | .ok v =>
      reportView index v
      pure v

def runResolve (source : RigSource) (snapshot : Option Nat)
    (params json : Bool) (settings : Settings) : Session m Unit := do
  let r <- loadRig source
  let index := snapshot.getD settings.snapshot
  let v <- viewOf settings.ceiling r index
  if json then
    Session.print (Document.Json.write (toValue v))
  else
    Session.printAll (viewLines (titleOf r) index params v)

def runSnapshots (source : RigSource) : Session m Unit := do
  let r <- loadRig source
  Session.printAll (snapshotListing r.snapshots)

def runBudget (source : RigSource) (ceiling : Option Float)
    (settings : Settings) : Session m Unit := do
  let ceiling := ceiling.getD settings.ceiling
  requireCeiling "ceiling" ceiling
  let r <- loadRig source
  let v <- viewOf ceiling r 0
  Session.printAll (budgetLines v)

def runDecode (ids : List UInt32) (family : Option InstrumentFamily)
    (all : Bool) (settings : Settings) : Session m Unit := do
  let family := family.getD settings.family
  if all then
    Session.printAll (familyLines family)
  else if ids.isEmpty then
    throw (Failure.ofMessage "no model ids given (pass ids or --all)")
  else
    Session.printAll (ids.map (modelLine family))

def runValidate (path : String) (strict : Bool) : Session m Unit := do
  let (r, warnings) <-
    Session.document (Failure.atPath path) (Rig.loadValidated path)
  if warnings.isEmpty then
    Session.print
      (path ++ ": ok (" ++ countText r.blockCount ++ " blocks, " ++
        countText r.snapshots.length ++ " snapshots)")
  else
    Session.printAll (warnings.map (fun w => "warning: " ++ w.message))
    if strict then
      throw (Failure.ofMessage
        (countText warnings.length ++ " warning(s) in " ++ path))

def runUnder (settings : Settings) (path : String) :
    Command -> Session m Unit
  | .resolve source snapshot params json =>
      runResolve source snapshot params json settings
  | .snapshots source => runSnapshots source
  | .budget source ceiling => runBudget source ceiling settings
  | .decode ids family all => runDecode ids family all settings
  | .validate rig strict => runValidate rig strict
  | .settings init force => runSettings init force settings path

def runCommand (settingsPath : String) (command : Command) :
    Session m Unit := do
  let settings <- loadSettings settingsPath
  runUnder settings settingsPath command

end Sessions

/-! ## Whole runs -/

structure Outcome where
  exitCode : Nat
  output : String
  log : List Log.Entry
  failure : Option Failure

def Outcome.ofSession (result : Except Failure Unit × Transcript) : Outcome :=
  let (ended, transcript) := result
  let failure :=
    match ended with
    | .ok () => none
    | .error f => some f
  { exitCode := if failure.isSome then 1 else 0
    output := Text.ofLines transcript.lines
    log := transcript.log
    failure := failure }

def Outcome.printed (lines : List String) : Outcome :=
  ⟨0, Text.ofLines lines, [], none⟩

/-- The outcome of arguments that ask for nothing. -/
def Outcome.refused : Outcome :=
  ⟨2, "", [], none⟩

def versionLine : String :=
  "rigscope 0.1.0"

def usageLines : List String :=
  ["Usage: rigscope [OPTIONS] <COMMAND>", "", "Commands:"] ++
    shapes.map (fun (name, _) => "  " ++ name)

def runArguments {m : Type -> Type} [Monad m] [FileStore m]
    (configurations : String) (arguments : List String) : m Outcome := do
  match parse arguments with
  | .mistake => pure Outcome.refused
  | .version => pure (Outcome.printed [versionLine])
  | .help => pure (Outcome.printed usageLines)
  | .run invocation =>
      let path :=
        invocation.settings.getD (Settings.defaultPath configurations)
      let session : Session m Unit := runCommand path invocation.command
      let setting : Setting := ⟨configurations, invocation.verbose⟩
      let result <- ((session.run setting).run).run Transcript.empty
      pure (Outcome.ofSession result)

end Command

end SignalChain
