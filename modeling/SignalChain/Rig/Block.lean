import SignalChain.Decimal.Layout
import SignalChain.Table

/-!
# Blocks

A block is one stage of a signal path as the device stores it.
-/

namespace SignalChain

inductive ParamValue where
  | number (x : Float)
  | flag (b : Bool)
  | text (s : String)
deriving BEq, DecidableEq

namespace ParamValue

/-- A parameter value as it is shown, a number with two places. -/
def display : ParamValue -> String
  | .number x => Decimal.fixedText 2 x
  | .flag true => "true"
  | .flag false => "false"
  | .text s => s

def number? : ParamValue -> Option Float
  | .number x => some x
  | _ => none

def text? : ParamValue -> Option String
  | .text s => some s
  | _ => none

end ParamValue

structure Block where
  model : String
  typeCode : Int32
  enabled : Bool
  position : Int32
  stereo : Bool
  params : Table String ParamValue
deriving BEq, DecidableEq

namespace Block

/-- A block that is on, mono, at the first position and without parameters. -/
def ofModel (model : String) : Block where
  model := model
  typeCode := 0
  enabled := true
  position := 0
  stereo := false
  params := Table.empty

def withParam (b : Block) (name : String) (value : ParamValue) : Block :=
  { b with params := b.params.insert name value }

end Block

end SignalChain
