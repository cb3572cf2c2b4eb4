import SignalChain.Chain.Assembly
import SignalChain.Chain.DisplayName

/-!
# Categories

What kind of stage a block is.  Amplifiers and cabinets are known by the type
code of the device; the others by keywords in the name of the model, of which
the first rule that applies counts.
-/

namespace SignalChain

inductive Category where
  | amp
  | cab
  | distortion
  | delay
  | reverb
  | dynamics
  | modulation
  | instrument
  | effect
deriving BEq, DecidableEq

namespace Category

def name : Category -> String
  | .amp => "Amp"
  | .cab => "Cab"
  | .distortion => "Distortion"
  | .delay => "Delay"
  | .reverb => "Reverb"
  | .dynamics => "Dynamics"
  | .modulation => "Modulation"
  | .instrument => "Instrument"
  | .effect => "Effect"

def label : Category -> String
  | .amp => "AMP"
  | .cab => "CAB"
  | .distortion => "DIST"
  | .delay => "DLY"
  | .reverb => "REV"
  | .dynamics => "DYN"
  | .modulation => "MOD"
  | .instrument => "VARX"
  | .effect => "FX"

def text : Category -> String
  | .amp => "amp"
  | .cab => "cab"
  | .distortion => "distortion"
  | .delay => "delay"
  | .reverb => "reverb"
  | .dynamics => "dynamics"
  | .modulation => "modulation"
  | .instrument => "instrument"
  | .effect => "effect"

/-- Keywords and the category that they stand for, in order of priority. -/
def keywordRules : List (List String × Category) :=
  [(["cab", "micir"], .cab),
    (["dist", "kinky", "scream", "deez"], .distortion),
    (["delay"], .delay),
    (["reverb"], .reverb),
    (["comp", "dynamics"], .dynamics),
    (["mod", "chorus", "tremolo", "poly"], .modulation)]

def mentions (name : List Char) (keywords : List String) : Bool :=
  keywords.any (fun keyword => Text.occursIn keyword.toList name)

/-- The category of the first rule whose keywords a name mentions. -/
def ofName (name : List Char) : Category :=
  match keywordRules.find? (fun rule => mentions name rule.1) with
  | none => .effect
  | some rule => rule.2

def ofModel (model : String) (typeCode : Int32) : Category :=
  if 1 <= typeCode && typeCode <= 3 then .amp
  else if typeCode = 4 then .cab
  else ofName (Text.lowercase model.toList)

end Category

namespace ChainBlock

def displayName (stage : ChainBlock) : String :=
  if stage.id.isInstrument then stage.block.model
  else DisplayName.ofModel stage.block.model

def category (stage : ChainBlock) : Category :=
  if stage.id.isInstrument then .instrument
  else Category.ofModel stage.block.model stage.block.typeCode

end ChainBlock

end SignalChain
