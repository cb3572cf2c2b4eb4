import SignalChain.Record.Block
import SignalChain.Record.Controller
import SignalChain.Record.Snapshot
import SignalChain.Rig.Basic

/-!
# Rigs in documents
-/

namespace SignalChain

open Record

namespace Rig

def fieldNames : List String :=
  ["name", "path0", "path1", "controllers", "snapshots", "instrument", "costs"]

instance : Record (Rig Float) where
  toValue r := .object <|
    fieldIfSome "name" r.name ++ fieldIfSome "path0" r.path0 ++
      fieldIfSome "path1" r.path1 ++ field "controllers" r.controllers ++
      fieldUnless r.snapshots.isEmpty "snapshots" r.snapshots ++
      fieldIfSome "instrument" r.instrument ++ field "costs" r.costs
  ofValue? format v := do
    let given <- fieldsOf? format fieldNames v
    let name <- optional format given "name"
    let path0 <- optional format given "path0"
    let path1 <- optional format given "path1"
    let controllers <- defaulted format given "controllers" ControllerTable.empty
    let snapshots <- defaulted format given "snapshots" []
    let instrument <- optional format given "instrument"
    let costs <- defaulted format given "costs" Table.empty
    some ⟨name, path0, path1, controllers, snapshots, instrument, costs⟩

end Rig

end SignalChain
