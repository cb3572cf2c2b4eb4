import SignalChain.Record.Basic
import SignalChain.Rig.Path

/-!
# Data per path in documents
-/

namespace SignalChain

open Record

namespace PerPath

def fieldNames : List String :=
  ["path0", "path1"]

instance {α : Type} [Written α] : Written (PerPath α) where
  toValue m := .object <|
    fieldUnless m.path0.isEmpty "path0" m.path0 ++
      fieldUnless m.path1.isEmpty "path1" m.path1

instance {α : Type} [Record α] : Record (PerPath α) where
  ofValue? format v := do
    let given <- fieldsOf? format fieldNames v
    let path0 <- defaulted format given "path0" Table.empty
    let path1 <- defaulted format given "path1" Table.empty
    some ⟨path0, path1⟩

end PerPath

end SignalChain
