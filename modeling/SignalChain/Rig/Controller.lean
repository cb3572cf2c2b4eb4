import SignalChain.Rig.Path

/-!
# Controllers

Which controller moves which parameter, for the blocks and for the instrument.
One controller is the snapshot: the parameters assigned to it may change when
another snapshot is selected.
-/

namespace SignalChain

/-- What moves a parameter, by the number that the device gives it. -/
inductive ControllerKind where
  | snapshot
  | other (code : UInt32)
deriving BEq, DecidableEq

namespace ControllerKind

def snapshotCode : UInt32 :=
  9

def ofCode (code : UInt32) : ControllerKind :=
  if code = snapshotCode then .snapshot else .other code

def code : ControllerKind -> UInt32
  | .snapshot => snapshotCode
  | .other code => code

@[simp] theorem code_ofCode (n : UInt32) :
    (ofCode n).code = n := by
  unfold ofCode
  split
  · next h => exact h.symm
  · rfl

end ControllerKind

structure Assignment where
  kind : ControllerKind
  min : Option Float
  max : Option Float
deriving BEq, DecidableEq

namespace Assignment

def ofKind (kind : ControllerKind) : Assignment :=
  ⟨kind, none, none⟩

def withRange (a : Assignment) (min max : Float) : Assignment :=
  { a with min := some min, max := some max }

def isSnapshot (a : Assignment) : Bool :=
  decide (a.kind = .snapshot)

end Assignment

abbrev Assignments :=
  Table String Assignment

structure ControllerTable where
  blocks : PerPath Assignments
  instrument : Assignments
deriving BEq

namespace ControllerTable

def empty : ControllerTable :=
  ⟨PerPath.empty, Table.empty⟩

def withBlockParam (t : ControllerTable) (path : DspPath)
    (key param : String) (assignment : Assignment) : ControllerTable :=
  { t with blocks := t.blocks.insertIn path key param assignment }

def withInstrumentParam (t : ControllerTable) (param : String)
    (assignment : Assignment) : ControllerTable :=
  { t with instrument := t.instrument.insert param assignment }

def block? (t : ControllerTable) (path : DspPath) (key : String) :
    Option Assignments :=
  t.blocks.get? path key

def get? (t : ControllerTable) (path : DspPath) (key param : String) :
    Option Assignment :=
  t.blocks.getIn? path key param

def isSnapshotControlled (t : ControllerTable) (path : DspPath)
    (key param : String) : Bool :=
  (t.get? path key param).any Assignment.isSnapshot

def hasInstrumentEntries (t : ControllerTable) : Bool :=
  !t.instrument.isEmpty

end ControllerTable

end SignalChain
