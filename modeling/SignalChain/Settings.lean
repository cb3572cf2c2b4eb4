import SignalChain.Chain.Budget
import SignalChain.Record.File
import SignalChain.Record.Instrument

/-!
# Settings

What a user sets once: the family of the instrument, the ceiling of the
platform and the snapshot that is shown first.
-/

namespace SignalChain

open Storage Record

structure Settings where
  family : InstrumentFamily
  ceiling : Float
  snapshot : Nat
deriving BEq

namespace Settings

def default : Settings where
  family := Instrument.default.family
  ceiling := Budget.platformCeiling
  snapshot := 0

def fieldNames : List String :=
  ["instrument_family", "platform_ceiling", "default_snapshot"]

instance : Record Settings where
  toValue s := .object <|
    field "instrument_family" s.family ++
      field "platform_ceiling" s.ceiling ++
      field "default_snapshot" s.snapshot
  ofValue? format v := do
    let given <- fieldsOf? format fieldNames v
    let family <- defaulted format given "instrument_family" default.family
    let ceiling <- defaulted format given "platform_ceiling" default.ceiling
    let snapshot <- defaulted format given "default_snapshot" default.snapshot
    some ⟨family, ceiling, snapshot⟩

def isCeiling (x : Float) : Bool :=
  x.isFinite && decide (0 < x)

/-! ## Where they are kept -/

def directoryName : String :=
  "rigscope"

def fileName : String :=
  "rigscope.toml"

def directory (configurations : String) : String :=
  Path.join configurations directoryName

def defaultPath (configurations : String) : String :=
  Path.join (directory configurations) fileName

end Settings

end SignalChain
