import SignalChain.Record.Basic
import SignalChain.Rig.Instrument

/-!
# Instruments in documents

A family is written as its name.  It may also be given as an object with the
name as its only field and nothing in it, which is null in JSON and an empty
list or table in TOML.
-/

namespace SignalChain

open Document Record

/-- Whether a value is nothing, as a format writes it. -/
def isNothing : Format -> Value -> Bool
  | .json, .null => true
  | .toml, .list [] => true
  | .toml, .object [] => true
  | _, _ => false

instance : Record InstrumentFamily where
  toValue family := .text family.text
  ofValue? format v :=
    match v with
    | .text s => InstrumentFamily.ofText? s
    | .object [(name, content)] =>
        if isNothing format content then InstrumentFamily.ofText? name else none
    | _ => none

def StringTunings.ofList? (tunings : List Int32) : Option StringTunings :=
  if h : tunings.length = 6 then some ⟨tunings.toArray, by simpa using h⟩
  else none

instance : Record StringTunings where
  toValue tunings := toValue tunings.toList
  ofValue? format v :=
    match v with
    | .list items => do
        let items <- partsOf? format 6 items
        let tunings <- items.mapM (ofValue? format)
        StringTunings.ofList? tunings
    | _ => none

namespace Instrument

def fieldNames : List String :=
  ["model_id", "family", "custom_tuning", "string_tunings"]

instance : Record Instrument where
  toValue i := .object <|
    field "model_id" i.modelId ++ field "family" i.family ++
      field "custom_tuning" i.customTuning ++
      field "string_tunings" i.stringTunings
  ofValue? format v := do
    let given <- fieldsOf? format fieldNames v
    let modelId <- defaulted format given "model_id" default.modelId
    let family <- defaulted format given "family" default.family
    let customTuning <-
      defaulted format given "custom_tuning" default.customTuning
    let stringTunings <-
      defaulted format given "string_tunings" default.stringTunings
    some ⟨modelId, family, customTuning, stringTunings⟩

end Instrument

namespace InstrumentOverride

def fieldNames : List String :=
  ["model_id", "custom_tuning", "string_tunings"]

instance : Record InstrumentOverride where
  toValue o := .object <|
    fieldIfSome "model_id" o.modelId ++
      fieldIfSome "custom_tuning" o.customTuning ++
      fieldIfSome "string_tunings" o.stringTunings
  ofValue? format v := do
    let given <- fieldsOf? format fieldNames v
    let modelId <- optional format given "model_id"
    let customTuning <- optional format given "custom_tuning"
    let stringTunings <- optional format given "string_tunings"
    some ⟨modelId, customTuning, stringTunings⟩

end InstrumentOverride

end SignalChain
