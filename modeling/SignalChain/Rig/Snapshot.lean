import SignalChain.Document.Value
import SignalChain.Rig.Instrument
import SignalChain.Rig.Path

/-!
# Snapshots

A snapshot is a named state of the rig.  It holds the device's own data, which
name blocks by path and key, and it may hold a hint, which names blocks as
people write them.  A table that is present but empty is not the same as an
absent one.
-/

namespace SignalChain

/-- What a design says about a snapshot. -/
structure Hint where
  activeBlocks : List String
  params : Table String Document.Payload
  guitarModel : Option String
  tuning : Option String
deriving BEq

structure Snapshot where
  name : String
  blocks : Option (PerPath Bool)
  params : Option (PerPath (Table String Float))
  instrumentControllers : Option InstrumentOverride
  instrument : Option InstrumentOverride
  hint : Option Hint
deriving BEq

namespace Snapshot

def ofName (name : String) : Snapshot where
  name := name
  blocks := none
  params := none
  instrumentControllers := none
  instrument := none
  hint := none

def withBlockEnabled (s : Snapshot) (path : DspPath) (key : String)
    (enabled : Bool) : Snapshot :=
  { s with blocks := some ((s.blocks.getD PerPath.empty).insert path key enabled) }

def withParamValue (s : Snapshot) (path : DspPath) (key param : String)
    (value : Float) : Snapshot :=
  { s with
    params := some ((s.params.getD PerPath.empty).insertIn path key param value) }

/-- Override the instrument by the controllers' record. -/
def withInstrumentControllers (s : Snapshot) (o : InstrumentOverride) :
    Snapshot :=
  { s with instrumentControllers := some o }

/-- Override the instrument by the older record. -/
def withInstrument (s : Snapshot) (o : InstrumentOverride) : Snapshot :=
  { s with instrument := some o }

def withHint (s : Snapshot) (hint : Hint) : Snapshot :=
  { s with hint := some hint }

def blockEnabled? (s : Snapshot) (path : DspPath) (key : String) :
    Option Bool :=
  s.blocks.bind (fun m => m.get? path key)

def paramValue? (s : Snapshot) (path : DspPath) (key param : String) :
    Option Float :=
  s.params.bind (fun m => m.getIn? path key param)

/-- Whether the device stored anything for the snapshot. -/
def hasTechnicalData (s : Snapshot) : Bool :=
  s.blocks.isSome || s.params.isSome || s.instrumentControllers.isSome

def sourceLabel (s : Snapshot) : String :=
  match s.hasTechnicalData, s.hint.isSome with
  | true, true => "device + design"
  | true, false => "device"
  | false, true => "design"
  | false, false => "stored state"

end Snapshot

end SignalChain
