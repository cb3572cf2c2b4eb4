import SignalChain.Record.Basic
import SignalChain.Rig.Block

/-!
# Blocks in documents
-/

namespace SignalChain

open Record

/-- A parameter value is written as what it is. -/
instance : Record ParamValue where
  toValue p :=
    match p with
    | .number x => .float x
    | .flag b => .bool b
    | .text s => .text s
  ofValue? _ v :=
    match v with
    | .float x => some (.number x)
    | .int n => some (.number (Float.ofInt n))
    | .bool b => some (.flag b)
    | .text s => some (.text s)
    | _ => none

namespace Block

def fieldNames : List String :=
  ["model", "type", "enabled", "position", "stereo", "params"]

instance : Record Block where
  toValue b := .object <|
    field "model" b.model ++ field "type" b.typeCode ++
      field "enabled" b.enabled ++ field "position" b.position ++
      field "stereo" b.stereo ++ field "params" b.params
  ofValue? format v := do
    let given <- fieldsOf? format fieldNames v
    let model <- required format given "model"
    let typeCode <- defaulted format given "type" 0
    let enabled <- defaulted format given "enabled" true
    let position <- defaulted format given "position" 0
    let stereo <- defaulted format given "stereo" false
    let params <- defaulted format given "params" Table.empty
    some ⟨model, typeCode, enabled, position, stereo, params⟩

end Block

end SignalChain
