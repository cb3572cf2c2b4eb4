import SignalChain.Chain.BlockId
import SignalChain.Chain.InstrumentModel
import SignalChain.Rig.Basic

/-!
# Assembling the chain

The chain of a rig lists its stages in the order of the signal: the instrument
if it is in use, then the blocks of the first path and those of the second,
each path by position and blocks at one position by key.
-/

namespace SignalChain

inductive StructureError where
  | noPath
deriving DecidableEq

def StructureError.message : StructureError -> String
  | .noPath => "rig configuration has neither path0 nor path1"

structure ChainBlock where
  id : BlockId
  block : Block
deriving BEq, DecidableEq

/-! ## The instrument as a block -/

def modelParam : String :=
  "Model"

def stringParams : List String :=
  ["Str 1 (High E)", "Str 2 (B)", "Str 3 (G)", "Str 4 (D)", "Str 5 (A)",
    "Str 6 (Low E)"]

def tuningParams (i : Instrument) : List (String × ParamValue) :=
  if i.customTuning then
    stringParams.zip
      (i.stringTunings.toList.map (fun t => .number (Float.ofInt t.toInt)))
  else
    []

def Instrument.toChainBlock (i : Instrument) : ChainBlock :=
  let name := InstrumentModel.nameOf i.family i.modelId
  let block := (Block.ofModel name).withParam modelParam (.text name)
  ⟨.instrument, { block with params := block.params.insertMany (tuningParams i) }⟩

namespace Rig

variable {ν : Type}

def checkStructure (r : Rig ν) : Except StructureError Unit :=
  if r.path0.isNone && r.path1.isNone then .error .noPath else .ok ()

/-- Whether the instrument has a model or a controller. -/
def instrumentInUse (r : Rig ν) (i : Instrument) : Bool :=
  i.modelId != 0 || r.controllers.hasInstrumentEntries

def instrumentStage (r : Rig ν) : List ChainBlock :=
  match r.instrument with
  | none => []
  | some i => if r.instrumentInUse i then [i.toChainBlock] else []

/-- The order of the blocks on a path: by position, and by key at one position. -/
def placedBefore (a b : String × Block) : Bool :=
  match compare a.2.position b.2.position with
  | .lt => true
  | .gt => false
  | .eq => (compare a.1 b.1).isLE

def pathStages (r : Rig ν) (path : DspPath) : List ChainBlock :=
  match r.path? path with
  | none => []
  | some blocks =>
      (blocks.toList.mergeSort placedBefore).map
        (fun entry => ⟨.onPath path entry.1, entry.2⟩)

/-- The stages of a rig, whether or not it has a path. -/
def stages (r : Rig ν) : List ChainBlock :=
  r.instrumentStage ++ DspPath.all.flatMap r.pathStages

def assemble (r : Rig ν) : Except StructureError (List ChainBlock) := do
  r.checkStructure
  pure r.stages

end Rig

end SignalChain
