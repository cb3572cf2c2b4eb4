import SignalChain.Record.Path
import SignalChain.Rig.Controller

/-!
# Controllers in documents
-/

namespace SignalChain

open Record

/-- A controller is written as its number. -/
instance : Record ControllerKind where
  toValue kind := Written.toValue kind.code
  ofValue? format v := (Record.ofValue? format v).map ControllerKind.ofCode

namespace Assignment

def fieldNames : List String :=
  ["controller", "min", "max"]

instance : Record Assignment where
  toValue a := .object <|
    field "controller" a.kind ++ fieldIfSome "min" a.min ++
      fieldIfSome "max" a.max
  ofValue? format v := do
    let given <- fieldsOf? format fieldNames v
    let kind <- required format given "controller"
    let min <- optional format given "min"
    let max <- optional format given "max"
    some ⟨kind, min, max⟩

end Assignment

namespace ControllerTable

def fieldNames : List String :=
  ["blocks", "instrument"]

instance : Record ControllerTable where
  toValue t := .object <|
    field "blocks" t.blocks ++
      fieldUnless t.instrument.isEmpty "instrument" t.instrument
  ofValue? format v := do
    let given <- fieldsOf? format fieldNames v
    let blocks <- defaulted format given "blocks" PerPath.empty
    let instrument <- defaulted format given "instrument" Table.empty
    some ⟨blocks, instrument⟩

end ControllerTable

end SignalChain
