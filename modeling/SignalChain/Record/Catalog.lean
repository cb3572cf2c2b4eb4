import SignalChain.Record.Basic
import SignalChain.Rig.Cost

/-!
# Model catalogs in documents

A catalog is a list of entries, in the spelling of the device's editor.
-/

namespace SignalChain

open Record

namespace CatalogEntry

def fieldNames : List String :=
  ["InternalName", "Name", "BasedOn", "DSP_Mono", "DSP_Stereo"]

instance : Record (CatalogEntry Float) where
  toValue e := .object <|
    field "InternalName" e.internalName ++
      fieldUnless e.name.isEmpty "Name" e.name ++
      fieldUnless e.basedOn.isEmpty "BasedOn" e.basedOn ++
      field "DSP_Mono" e.monoCost ++ field "DSP_Stereo" e.stereoCost
  ofValue? format v := do
    let given <- fieldsOf? format fieldNames v
    let internalName <- required format given "InternalName"
    let name <- defaulted format given "Name" ""
    let basedOn <- defaulted format given "BasedOn" ""
    let monoCost <- defaulted format given "DSP_Mono" 0
    let stereoCost <- defaulted format given "DSP_Stereo" 0
    some ⟨internalName, name, basedOn, monoCost, stereoCost⟩

end CatalogEntry

end SignalChain
