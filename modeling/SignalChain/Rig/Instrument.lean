/-!
# The instrument

A modelling guitar that feeds the rig: the model it sounds like, and how its
six strings are tuned.  A snapshot may override both.
-/

namespace SignalChain

/-- The product line of an instrument, which decides what its model ids mean. -/
inductive InstrumentFamily where
  | jtv
  | shuriken
deriving BEq, DecidableEq

namespace InstrumentFamily

def text : InstrumentFamily -> String
  | .jtv => "jtv"
  | .shuriken => "shuriken"

/-- The family with exactly this name. -/
def ofText? (s : String) : Option InstrumentFamily :=
  if s = "jtv" then some .jtv
  else if s = "shuriken" then some .shuriken
  else none

/-- A name that no family has; it is shown in lower case. -/
structure UnknownFamily where
  name : String

def UnknownFamily.message (e : UnknownFamily) : String :=
  "unknown instrument family '" ++ e.name ++ "' (expected jtv or shuriken)"

/-- The family with a name, in any case of its ASCII letters. -/
def parse (s : String) : Except UnknownFamily InstrumentFamily :=
  let name := String.ofList (s.toList.map Char.toLower)
  match ofText? name with
  | some family => .ok family
  | none => .error ⟨name⟩

end InstrumentFamily

/-- The tuning of the six strings, the highest string first. -/
abbrev StringTunings :=
  Vector Int32 6

structure Instrument where
  modelId : UInt32
  family : InstrumentFamily
  customTuning : Bool
  stringTunings : StringTunings
deriving BEq, DecidableEq

structure InstrumentOverride where
  modelId : Option UInt32
  customTuning : Option Bool
  stringTunings : Option StringTunings
deriving BEq, DecidableEq

namespace InstrumentOverride

def isEmpty (o : InstrumentOverride) : Bool :=
  o.modelId.isNone && o.customTuning.isNone &&
    o.stringTunings.isNone

end InstrumentOverride

namespace Instrument

def default : Instrument where
  modelId := 0
  family := .jtv
  customTuning := false
  stringTunings := Vector.replicate 6 0

/-- Replace what an override gives; the family always stays. -/
def merge (base : Instrument) (o : InstrumentOverride) : Instrument where
  modelId := o.modelId.getD base.modelId
  family := base.family
  customTuning := o.customTuning.getD base.customTuning
  stringTunings := o.stringTunings.getD base.stringTunings

end Instrument

end SignalChain
