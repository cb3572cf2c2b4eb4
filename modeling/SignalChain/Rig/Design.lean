import SignalChain.Rig.Basic

/-!
# Designs

A design describes a rig in words: its components, and the snapshots with the
blocks that should be on.  Attached to a rig it gives hints, by the index of
the snapshot, and adds the snapshots that the rig does not have.
-/

namespace SignalChain

structure DesignComponent where
  kind : String
  name : String
  description : String
  settings : String
deriving BEq, DecidableEq

structure DesignSnapshot where
  name : String
  activeBlocks : List String
  guitarModel : Option String
  tuning : Option String
  params : Table String Document.Payload
deriving BEq

structure Design where
  suggestedName : String
  explanation : String
  guitarModel : Option String
  tuning : Option String
  chain : List DesignComponent
  snapshots : List DesignSnapshot
deriving BEq

def DesignSnapshot.hint (s : DesignSnapshot) : Hint where
  activeBlocks := s.activeBlocks
  params := s.params
  guitarModel := s.guitarModel
  tuning := s.tuning

/-- Give each snapshot the hint of its index, and add the missing ones. -/
def attachHints : List Snapshot -> List DesignSnapshot -> List Snapshot
  | snapshots, [] => snapshots
  | [], wanted => wanted.map (fun w => (Snapshot.ofName w.name).withHint w.hint)
  | s :: snapshots, w :: wanted => s.withHint w.hint :: attachHints snapshots wanted

def Rig.withDesign {ν : Type} (r : Rig ν) (d : Design) : Rig ν :=
  { r with snapshots := attachHints r.snapshots d.snapshots }

end SignalChain
