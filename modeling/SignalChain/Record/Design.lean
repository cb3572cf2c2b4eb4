import SignalChain.Record.Basic
import SignalChain.Rig.Design

/-!
# Designs in documents
-/

namespace SignalChain

open Record

namespace DesignComponent

def fieldNames : List String :=
  ["type", "name", "description", "settings"]

instance : Record DesignComponent where
  toValue c := .object <|
    field "type" c.kind ++ field "name" c.name ++
      fieldUnless c.description.isEmpty "description" c.description ++
      fieldUnless c.settings.isEmpty "settings" c.settings
  ofValue? format v := do
    let given <- fieldsOf? format fieldNames v
    let kind <- defaulted format given "type" ""
    let name <- required format given "name"
    let description <- defaulted format given "description" ""
    let settings <- defaulted format given "settings" ""
    some ⟨kind, name, description, settings⟩

end DesignComponent

namespace DesignSnapshot

def fieldNames : List String :=
  ["name", "active_blocks", "guitar_model", "tuning", "params"]

instance : Record DesignSnapshot where
  toValue s := .object <|
    field "name" s.name ++ field "active_blocks" s.activeBlocks ++
      fieldIfSome "guitar_model" s.guitarModel ++
      fieldIfSome "tuning" s.tuning ++
      fieldUnless s.params.isEmpty "params" s.params
  ofValue? format v := do
    let given <- fieldsOf? format fieldNames v
    let name <- required format given "name"
    let activeBlocks <- defaulted format given "active_blocks" []
    let guitarModel <- optional format given "guitar_model"
    let tuning <- optional format given "tuning"
    let params <- defaulted format given "params" Table.empty
    some ⟨name, activeBlocks, guitarModel, tuning, params⟩

end DesignSnapshot

namespace Design

def fieldNames : List String :=
  ["suggested_name", "explanation", "guitar_model", "tuning", "chain",
    "snapshots"]

instance : Record Design where
  toValue d := .object <|
    fieldUnless d.suggestedName.isEmpty "suggested_name" d.suggestedName ++
      fieldUnless d.explanation.isEmpty "explanation" d.explanation ++
      fieldIfSome "guitar_model" d.guitarModel ++
      fieldIfSome "tuning" d.tuning ++ field "chain" d.chain ++
      field "snapshots" d.snapshots
  ofValue? format v := do
    let given <- fieldsOf? format fieldNames v
    let suggestedName <- defaulted format given "suggested_name" ""
    let explanation <- defaulted format given "explanation" ""
    let guitarModel <- optional format given "guitar_model"
    let tuning <- optional format given "tuning"
    let chain <- defaulted format given "chain" []
    let snapshots <- defaulted format given "snapshots" []
    some ⟨suggestedName, explanation, guitarModel, tuning, chain, snapshots⟩

end Design

end SignalChain
