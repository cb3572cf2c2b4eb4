import SignalChain.Chain.Category
import SignalChain.Chain.Matching

/-!
# Resolving a snapshot

The state of each stage of a chain when a snapshot is selected.  What the
device stored for the snapshot decides before the hint of a design does, and
where neither speaks the stored state stays.  The instrument takes the
snapshot's overrides and is never switched off.
-/

namespace SignalChain

/-- What decided whether a block is on. -/
inductive EnabledSource where
  | technical
  | hint
  | stored
deriving BEq, DecidableEq

namespace EnabledSource

def text : EnabledSource -> String
  | .technical => "technical"
  | .hint => "hint"
  | .stored => "stored"

def label : EnabledSource -> String
  | .technical => "device"
  | .hint => "design"
  | .stored => "stored"

def logText : EnabledSource -> String
  | .technical => "Technical"
  | .hint => "Hint"
  | .stored => "Stored"

end EnabledSource

structure ResolvedBlock (ν : Type) where
  id : BlockId
  block : Block
  enabled : Bool
  source : EnabledSource
  params : Table String ParamValue
  snapshotControlled : List String
  designShift : Bool
  displayName : String
  category : Category
  cost : ν
  activeIn : List String
deriving BEq, DecidableEq

namespace ResolvedBlock

variable {ν : Type}

def channelLabel (b : ResolvedBlock ν) : String :=
  if b.block.stereo then "Stereo" else "Mono"

end ResolvedBlock

structure SnapshotSummary where
  index : Nat
  name : String
deriving BEq, DecidableEq

structure ResolvedChain (ν : Type) where
  snapshot : Option SnapshotSummary
  blocks : List (ResolvedBlock ν)
deriving BEq, DecidableEq

namespace ResolvedChain

variable {ν : Type}

/-- The first stage with an id. -/
def get? (chain : ResolvedChain ν) (id : BlockId) : Option (ResolvedBlock ν) :=
  chain.blocks.find? (fun b => decide (b.id = id))

def instrument? (chain : ResolvedChain ν) : Option (ResolvedBlock ν) :=
  chain.blocks.find? (fun b => b.id.isInstrument)

def enabledBlocks (chain : ResolvedChain ν) : List (ResolvedBlock ν) :=
  chain.blocks.filter (fun b => b.enabled)

end ResolvedChain

/-! ## One stage -/

def selectedInstrument (base : Instrument) : Option Snapshot -> Instrument
  | none => base
  | some snapshot =>
      match snapshot.instrumentControllers, snapshot.instrument with
      | some o, _ => base.merge o
      | none, some o => if o.isEmpty then base else base.merge o
      | none, none => base

namespace ChainBlock

/-- The names that a reference can mean a stage by. -/
def candidateNames (stage : ChainBlock) : List String :=
  if stage.id.isInstrument then
    [stage.displayName, InstrumentModel.genericName]
  else
    [stage.displayName, stage.block.model]

/-- The stage with a snapshot's instrument, if it is the instrument. -/
def withSelectedInstrument {ν : Type} (stage : ChainBlock) (r : Rig ν)
    (snapshot : Option Snapshot) : ChainBlock :=
  match stage.id, r.instrument with
  | .instrument, some base => (selectedInstrument base snapshot).toChainBlock
  | _, _ => stage

/-- The parameters of a stage; a snapshot only changes those it has. -/
def selectedParams (stage : ChainBlock) (snapshot : Option Snapshot) :
    Table String ParamValue :=
  match snapshot, stage.id with
  | some snapshot, .onPath path key =>
      stage.block.params.map (fun name value =>
        match snapshot.paramValue? path key name with
        | none => value
        | some x => .number x)
  | _, _ => stage.block.params

def assignments (stage : ChainBlock) (controllers : ControllerTable) :
    Assignments :=
  match stage.id with
  | .instrument => controllers.instrument
  | .onPath path key => (controllers.block? path key).getD Table.empty

def controlledParams (stage : ChainBlock) (controllers : ControllerTable) :
    List String :=
  ((stage.assignments controllers).toList.filter
    (fun entry => entry.2.isSnapshot)).map (·.1)

end ChainBlock

def Hint.activates (hint : Hint) (matcher : Matcher) (names : List String) :
    Bool :=
  hint.activeBlocks.any (fun reference => matcher.meansAny reference names)

def Hint.hasParamsFor (hint : Hint) (matcher : Matcher) (names : List String) :
    Bool :=
  hint.params.keys.any (fun reference => matcher.meansAny reference names)

def ChainBlock.selectedState (stage : ChainBlock) (matcher : Matcher)
    (snapshot : Option Snapshot) : Bool × EnabledSource :=
  let stored := (stage.block.enabled, EnabledSource.stored)
  match snapshot, stage.id with
  | some snapshot, .onPath path key =>
      if snapshot.blocks.isSome then
        match snapshot.blockEnabled? path key with
        | none => stored
        | some enabled => (enabled, .technical)
      else
        match snapshot.hint with
        | none => stored
        | some hint =>
            if hint.activeBlocks.isEmpty then stored
            else (hint.activates matcher stage.candidateNames, .hint)
  | _, _ => stored

/-- The names of the snapshots whose hints want a stage on, in order. -/
def activeSnapshots (matcher : Matcher) (names : List String)
    (snapshots : List Snapshot) : List String :=
  (snapshots.filter
    (fun s => s.hint.any (fun hint => hint.activates matcher names))).map
      (fun s => s.name)

/-! ## The chain -/

namespace Rig

variable {ν : Type} [Amount ν]

def resolveBlock (r : Rig ν) (matcher : Matcher) (snapshot : Option Snapshot)
    (stage : ChainBlock) : ResolvedBlock ν :=
  let names := stage.candidateNames
  let (enabled, source) := stage.selectedState matcher snapshot
  let controlled :=
    if snapshot.isSome then stage.controlledParams r.controllers else []
  let hinted :=
    (snapshot.bind (·.hint)).any (fun hint => hint.hasParamsFor matcher names)
  { id := stage.id
    block := stage.block
    enabled := enabled
    source := source
    params := stage.selectedParams snapshot
    snapshotControlled := controlled
    designShift := !controlled.isEmpty || hinted
    displayName := stage.displayName
    category := stage.category
    cost := CostTable.costOf r.costs stage.block.model
    activeIn := activeSnapshots matcher names r.snapshots }

def resolveChain (r : Rig ν) (matcher : Matcher) (chain : List ChainBlock)
    (index : Nat) : ResolvedChain ν :=
  let snapshot := r.snapshot? index
  { snapshot := snapshot.map (fun s => ⟨index, s.name⟩)
    blocks :=
      chain.map (fun stage =>
        r.resolveBlock matcher snapshot
          (stage.withSelectedInstrument r snapshot)) }

end Rig

end SignalChain
