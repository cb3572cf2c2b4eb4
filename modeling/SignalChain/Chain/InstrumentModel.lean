import SignalChain.Decimal.Layout
import SignalChain.Rig.Instrument

/-!
# Names of instrument models

The models of an instrument stand in banks of five.  Ids count through the
banks from 1, and within a bank the variants are numbered backwards from 5 to
1.  Id 0 is no model.
-/

namespace SignalChain

namespace InstrumentModel

/-- What an instrument is called when its model has no bank. -/
def genericName : String :=
  "Variax"

def bankSize : UInt32 :=
  5

/-- The banks of a family in the order of the ids. -/
def bankNames : InstrumentFamily -> List String
  | .jtv =>
      ["Custom 1", "T-Model", "Spank", "Lester", "Special", "R-Billy",
        "Chime", "Semi", "Jazzbox", "Acoustic", "Reso", "Custom 2"]
  | .shuriken =>
      ["Shuriken", "T-Model", "Spank", "Lester", "Acoustic", "Jazz",
        "World", "Twang", "User I", "User II", "User III", "User IV"]

structure Slot where
  bank : UInt32
  variant : UInt32
deriving BEq, DecidableEq

def slot? (id : UInt32) : Option Slot :=
  if id = 0 then
    none
  else
    some ⟨(id - 1) / bankSize, bankSize - (id - 1) % bankSize⟩

def bankName (family : InstrumentFamily) (bank : UInt32) : String :=
  ((bankNames family)[bank.toNat]?).getD genericName

def nameOf (family : InstrumentFamily) (id : UInt32) : String :=
  match slot? id with
  | none => genericName
  | some slot =>
      bankName family slot.bank ++ " " ++
        String.ofList (Decimal.natText slot.variant.toNat)

end InstrumentModel

end SignalChain
