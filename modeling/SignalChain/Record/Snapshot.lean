import SignalChain.Record.Instrument
import SignalChain.Record.Path
import SignalChain.Rig.Snapshot

/-!
# Snapshots in documents
-/

namespace SignalChain

open Record

namespace Hint

def fieldNames : List String :=
  ["active_blocks", "params", "guitar_model", "tuning"]

instance : Record Hint where
  toValue h := .object <|
    field "active_blocks" h.activeBlocks ++
      fieldUnless h.params.isEmpty "params" h.params ++
      fieldIfSome "guitar_model" h.guitarModel ++
      fieldIfSome "tuning" h.tuning
  ofValue? format v := do
    let given <- fieldsOf? format fieldNames v
    let activeBlocks <- defaulted format given "active_blocks" []
    let params <- defaulted format given "params" Table.empty
    let guitarModel <- optional format given "guitar_model"
    let tuning <- optional format given "tuning"
    some ⟨activeBlocks, params, guitarModel, tuning⟩

end Hint

namespace Snapshot

def fieldNames : List String :=
  ["name", "blocks", "params", "instrument_controllers", "instrument", "hint"]

instance : Record Snapshot where
  toValue s := .object <|
    field "name" s.name ++ fieldIfSome "blocks" s.blocks ++
      fieldIfSome "params" s.params ++
      fieldIfSome "instrument_controllers" s.instrumentControllers ++
      fieldIfSome "instrument" s.instrument ++ fieldIfSome "hint" s.hint
  ofValue? format v := do
    let given <- fieldsOf? format fieldNames v
    let name <- required format given "name"
    let blocks <- optional format given "blocks"
    let params <- optional format given "params"
    let instrumentControllers <- optional format given "instrument_controllers"
    let instrument <- optional format given "instrument"
    let hint <- optional format given "hint"
    some ⟨name, blocks, params, instrumentControllers, instrument, hint⟩

end Snapshot

end SignalChain
