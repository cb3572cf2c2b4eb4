import SignalChain.Chain.Assembly
import SignalChain.Decimal.Layout

/-!
# Validation

What is odd about a rig without making it unusable: blocks that share a
position, data for blocks that are not stored, and costs that cannot be
counted.
-/

namespace SignalChain

inductive Warning (ν : Type) where
  | duplicatePosition (path : DspPath) (position : Int32) (keys : List String)
  | unknownSnapshotBlock (snapshot : String) (path : DspPath) (key : String)
  | unknownControllerBlock (path : DspPath) (key : String)
  | invalidCost (model : String) (cost : ν)
deriving BEq

namespace Warning

def message : Warning Float -> String
  | .duplicatePosition path position keys =>
      path.text ++ ": blocks " ++ String.intercalate ", " keys ++
        " share position " ++ String.ofList (Decimal.intText position.toInt)
  | .unknownSnapshotBlock snapshot path key =>
      "snapshot '" ++ snapshot ++ "' overrides unknown block " ++ path.text ++
        "/" ++ key
  | .unknownControllerBlock path key =>
      "controller table references unknown block " ++ path.text ++ "/" ++ key
  | .invalidCost model cost =>
      "model '" ++ model ++ "' has invalid DSP cost " ++
        Decimal.messageText cost ++ ", counted as 0"

end Warning

namespace Rig

variable {ν : Type}

/-- The keys at each position of a path, both in order. -/
def keysByPosition (blocks : Table String Block) : Table Int32 (List String) :=
  blocks.toList.foldl
    (fun t entry =>
      t.insert entry.2.position
        ((t.get? entry.2.position).getD [] ++ [entry.1]))
    Table.empty

def positionWarnings (r : Rig ν) (path : DspPath) : List (Warning ν) :=
  match r.path? path with
  | none => []
  | some blocks =>
      ((keysByPosition blocks).toList.filter (fun entry => 1 < entry.2.length)).map
        (fun entry => .duplicatePosition path entry.1 entry.2)

def snapshotTargets (s : Snapshot) : List (DspPath × String) :=
  let switched := (s.blocks.getD PerPath.empty).toList
  let tuned := (s.params.getD PerPath.empty).toList
  switched.map (fun entry => (entry.1, entry.2.1)) ++
    tuned.map (fun entry => (entry.1, entry.2.1))

def hasBlock (r : Rig ν) (target : DspPath × String) : Bool :=
  (r.block? target.1 target.2).isSome

def snapshotWarnings (r : Rig ν) (s : Snapshot) : List (Warning ν) :=
  ((snapshotTargets s).filter (fun target => !r.hasBlock target)).eraseDups.map
    (fun target => .unknownSnapshotBlock s.name target.1 target.2)

def controllerWarnings (r : Rig ν) : List (Warning ν) :=
  let targets := r.controllers.blocks.toList.map (fun entry => (entry.1, entry.2.1))
  (targets.filter (fun target => !r.hasBlock target)).map
    (fun target => .unknownControllerBlock target.1 target.2)

def costWarnings [Amount ν] (r : Rig ν) : List (Warning ν) :=
  (r.costs.toList.filter (fun entry => !CostTable.isUsable entry.2)).map
    (fun entry => .invalidCost entry.1 entry.2)

/-- All warnings, in the order of the checks. -/
def warnings [Amount ν] (r : Rig ν) : List (Warning ν) :=
  DspPath.all.flatMap r.positionWarnings ++
    r.snapshots.flatMap r.snapshotWarnings ++
    r.controllerWarnings ++ r.costWarnings

def validate [Amount ν] (r : Rig ν) :
    Except StructureError (List (Warning ν)) := do
  r.checkStructure
  pure r.warnings

end Rig

end SignalChain
