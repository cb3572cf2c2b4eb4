import SignalChain.Chain.View
import SignalChain.Record.Block

/-!
# Views in documents

Views are written and never read.  Their warnings are not part of what is
written.
-/

namespace SignalChain

open Document Record

instance : Written BlockId where
  toValue id := .text id.text

instance : Written ChainBlock where
  toValue stage := .object (field "id" stage.id ++ field "block" stage.block)

instance : Written EnabledSource where
  toValue source := .text source.text

instance : Written Category where
  toValue category := .text category.text

instance : Written BudgetLevel where
  toValue level := .text level.label

instance : Written (ResolvedBlock Float) where
  toValue b := .object <|
    field "id" b.id ++ field "block" b.block ++ field "enabled" b.enabled ++
      field "enabled_source" b.source ++ field "params" b.params ++
      field "snapshot_controlled" b.snapshotControlled ++
      field "design_shift" b.designShift ++
      field "display_name" b.displayName ++ field "category" b.category ++
      field "dsp_cost" b.cost ++ field "active_in_snapshots" b.activeIn

instance : Written SnapshotSummary where
  toValue s := .object (field "index" s.index ++ field "name" s.name)

instance : Written (ResolvedChain Float) where
  toValue chain :=
    let snapshot :=
      match chain.snapshot with
      | none => Value.null
      | some s => toValue s
    .object (("snapshot", snapshot) :: field "blocks" chain.blocks)

instance : Written (Budget Float) where
  toValue b :=
    let perBlock :=
      Value.object (b.perBlock.toList.map
        (fun entry => (entry.1.text, toValue entry.2)))
    .object <|
      field "total" b.total ++ ("per_block", perBlock) ::
        field "ceiling" b.ceiling

instance : Written (View Float) where
  toValue v := .object <|
    field "chain" v.chain ++ field "budget" v.budget ++ field "level" v.level

end SignalChain
