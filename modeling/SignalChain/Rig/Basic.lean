import SignalChain.Rig.Block
import SignalChain.Rig.Controller
import SignalChain.Rig.Cost
import SignalChain.Rig.Snapshot

/-!
# Rigs

The configuration of a rig as its file holds it: the blocks of the two paths,
the controllers, the snapshots, the instrument and the costs of the models.
-/

namespace SignalChain

structure Rig (ν : Type) where
  name : Option String
  path0 : Option (Table String Block)
  path1 : Option (Table String Block)
  controllers : ControllerTable
  snapshots : List Snapshot
  instrument : Option Instrument
  costs : CostTable ν
deriving BEq

namespace Rig

variable {ν : Type}

/-- A rig without any path. -/
def empty : Rig ν where
  name := none
  path0 := none
  path1 := none
  controllers := ControllerTable.empty
  snapshots := []
  instrument := none
  costs := Table.empty

/-- A rig with two paths without blocks. -/
def new : Rig ν :=
  { (empty : Rig ν) with path0 := some Table.empty, path1 := some Table.empty }

def path? (r : Rig ν) : DspPath -> Option (Table String Block)
  | .path0 => r.path0
  | .path1 => r.path1

def block? (r : Rig ν) (path : DspPath) (key : String) : Option Block :=
  (r.path? path).bind (fun blocks => blocks.get? key)

def snapshot? (r : Rig ν) (index : Nat) : Option Snapshot :=
  r.snapshots[index]?

def blockCount (r : Rig ν) : Nat :=
  (DspPath.all.flatMap
    (fun path => ((r.path? path).getD Table.empty).toList)).length

/-! ## Changes -/

def withName (r : Rig ν) (name : String) : Rig ν :=
  { r with name := some name }

def withPath (r : Rig ν) (path : DspPath) (blocks : Table String Block) :
    Rig ν :=
  match path with
  | .path0 => { r with path0 := some blocks }
  | .path1 => { r with path1 := some blocks }

/-- Store a block, on a path that may not exist yet. -/
def withBlock (r : Rig ν) (path : DspPath) (key : String) (block : Block) :
    Rig ν :=
  r.withPath path (((r.path? path).getD Table.empty).insert key block)

def withControllers (r : Rig ν) (controllers : ControllerTable) : Rig ν :=
  { r with controllers := controllers }

def withSnapshot (r : Rig ν) (snapshot : Snapshot) : Rig ν :=
  { r with snapshots := r.snapshots ++ [snapshot] }

def modifySnapshot (r : Rig ν) (index : Nat) (f : Snapshot -> Snapshot) :
    Rig ν :=
  { r with snapshots := r.snapshots.modify index f }

def withInstrument (r : Rig ν) (instrument : Instrument) : Rig ν :=
  { r with instrument := some instrument }

def withCosts (r : Rig ν) (costs : CostTable ν) : Rig ν :=
  { r with costs := costs }

/-- Fill in the costs of a catalog for the models that the rig does not list. -/
def withCatalog [Amount ν] (r : Rig ν) (entries : List (CatalogEntry ν)) :
    Rig ν :=
  { r with costs := (CostTable.ofCatalog entries).override r.costs }

def withFamily (r : Rig ν) (family : InstrumentFamily) : Rig ν :=
  { r with
    instrument := r.instrument.map (fun i => { i with family := family }) }

end Rig

end SignalChain
