import Mathlib.Data.List.Nodup
import SignalChain.Chain.Resolution
import SignalChain.Proofs.Chain.Assembly

/-!
# Looking up a resolved stage

Resolving a chain keeps the ids of its stages and their order.  A look-up by id
therefore answers with the state of the one stage that has the id: that of the
stored block on a path, and that of the selected instrument for the instrument.
-/

namespace SignalChain

variable {ν : Type}

/-! ## Look-ups in a resolved chain -/

namespace ResolvedChain

theorem isSome_get?_iff {chain : ResolvedChain ν} {id : BlockId} :
    (chain.get? id).isSome ↔ id ∈ chain.blocks.map (·.id) := by
  simp [get?, List.find?_isSome]

/-- With distinct ids, a look-up finds each block under its own id. -/
theorem get?_eq_some_of_mem {chain : ResolvedChain ν}
    (hids : (chain.blocks.map (·.id)).Nodup) {b : ResolvedBlock ν} (hb : b ∈ chain.blocks) :
    chain.get? b.id = some b := by
  have hsome : (chain.get? b.id).isSome := isSome_get?_iff.2 (List.mem_map.2 ⟨b, hb, rfl⟩)
  obtain ⟨found, hfound⟩ := Option.isSome_iff_exists.1 hsome
  have hid : found.id = b.id := by
    simpa using List.find?_some hfound
  have hmem : found ∈ chain.blocks := List.mem_of_find?_eq_some hfound
  rw [hfound, List.inj_on_of_nodup_map hids hmem hb hid]

end ResolvedChain

/-! ## The stage of the selected instrument -/

namespace ChainBlock

@[simp] theorem id_withSelectedInstrument (stage : ChainBlock) (r : Rig ν)
    (snapshot : Option Snapshot) :
    (stage.withSelectedInstrument r snapshot).id = stage.id := by
  unfold withSelectedInstrument
  split
  · next h _ => exact h.symm
  · rfl

theorem withSelectedInstrument_onPath (path : DspPath) (key : String) (block : Block)
    (r : Rig ν) (snapshot : Option Snapshot) :
    withSelectedInstrument ⟨.onPath path key, block⟩ r snapshot = ⟨.onPath path key, block⟩ :=
  rfl

theorem withSelectedInstrument_toChainBlock {r : Rig ν} {base : Instrument}
    (h : r.instrument = some base) (snapshot : Option Snapshot) :
    base.toChainBlock.withSelectedInstrument r snapshot =
      (selectedInstrument base snapshot).toChainBlock := by
  simp [withSelectedInstrument, h]

/-- Without a selected snapshot each stage stays as it was assembled. -/
theorem withSelectedInstrument_none {r : Rig ν} {stage : ChainBlock}
    (h : stage ∈ r.stages) :
    stage.withSelectedInstrument r none = stage := by
  rw [Rig.stages_eq, List.mem_append] at h
  rcases h with hlead | hplaced
  · obtain ⟨base, hbase, rfl⟩ := List.mem_map.1 hlead
    have hused : r.usedInstrument? = some base := by
      simpa using hbase
    rw [withSelectedInstrument_toChainBlock (Rig.instrument_of_usedInstrument? hused)]
    rfl
  · obtain ⟨path, key, block, -, rfl⟩ := Rig.mem_blockStages_iff.1 hplaced
    rfl

/-! ## What a stage takes from a snapshot -/

section Taken

variable {s s' : Snapshot}

theorem withSelectedInstrument_congr (hcontrollers : s'.instrumentControllers =
    s.instrumentControllers) (hinstrument : s'.instrument = s.instrument) (stage : ChainBlock)
    (r : Rig ν) :
    stage.withSelectedInstrument r (some s') = stage.withSelectedInstrument r (some s) := by
  simp only [withSelectedInstrument, selectedInstrument, hcontrollers, hinstrument]

theorem selectedParams_congr (h : s'.params = s.params) (stage : ChainBlock) :
    stage.selectedParams (some s') = stage.selectedParams (some s) := by
  unfold selectedParams
  cases stage.id with
  | instrument => rfl
  | onPath path key => simp only [Snapshot.paramValue?, h]

theorem selectedState_congr (hblocks : s'.blocks = s.blocks) (hhint : s'.hint = s.hint)
    (stage : ChainBlock) (matcher : Matcher) :
    stage.selectedState matcher (some s') = stage.selectedState matcher (some s) := by
  unfold selectedState
  cases stage.id with
  | instrument => rfl
  | onPath path key => simp only [Snapshot.blockEnabled?, hblocks, hhint]

end Taken

end ChainBlock

/-- Which snapshots want a stage depends on their names and on what their hints switch on. -/
theorem activeSnapshots_map (f : Snapshot → Snapshot) {matcher : Matcher} {names : List String}
    (hname : ∀ s, (f s).name = s.name)
    (hhint : ∀ s, (f s).hint.any (fun hint => hint.activates matcher names) =
      s.hint.any (fun hint => hint.activates matcher names))
    (snapshots : List Snapshot) :
    activeSnapshots matcher names (snapshots.map f) = activeSnapshots matcher names snapshots := by
  unfold activeSnapshots
  rw [List.filter_map, List.map_map]
  simp only [Function.comp_def, hname, hhint]

/-! ## The resolved chain -/

namespace Rig

variable [Amount ν]

@[simp] theorem id_resolveBlock (r : Rig ν) (matcher : Matcher) (snapshot : Option Snapshot)
    (stage : ChainBlock) : (r.resolveBlock matcher snapshot stage).id = stage.id :=
  rfl

theorem ids_resolveChain (r : Rig ν) (matcher : Matcher) (chain : List ChainBlock)
    (index : Nat) :
    (r.resolveChain matcher chain index).blocks.map (·.id) = chain.map (·.id) := by
  simp [resolveChain, Function.comp_def]

/-- The resolved chain of a rig: the selected instrument, and the blocks as they are stored. -/
theorem blocks_resolveChain_stages (r : Rig ν) (matcher : Matcher) (index : Nat) :
    (r.resolveChain matcher r.stages index).blocks =
      r.usedInstrument?.toList.map (fun base =>
          r.resolveBlock matcher (r.snapshot? index)
            (selectedInstrument base (r.snapshot? index)).toChainBlock) ++
        r.blockStages.map (r.resolveBlock matcher (r.snapshot? index)) := by
  have hblocks : ∀ stage ∈ r.blockStages,
      r.resolveBlock matcher (r.snapshot? index)
          (stage.withSelectedInstrument r (r.snapshot? index)) =
        r.resolveBlock matcher (r.snapshot? index) stage := by
    intro stage hstage
    obtain ⟨path, key, block, -, rfl⟩ := mem_blockStages_iff.1 hstage
    rw [ChainBlock.withSelectedInstrument_onPath]
  simp only [resolveChain, stages_eq, List.map_append, List.map_congr_left hblocks]
  cases h : r.usedInstrument? with
  | none =>
      rfl
  | some base =>
      have hbase := instrument_of_usedInstrument? h
      simp [ChainBlock.withSelectedInstrument_toChainBlock hbase]

theorem resolveChain_ids_nodup (r : Rig ν) (matcher : Matcher) (index : Nat) :
    ((r.resolveChain matcher r.stages index).blocks.map (·.id)).Nodup := by
  rw [ids_resolveChain]
  exact r.stages_ids_nodup

theorem resolveChain_of_snapshot?_eq_none {r : Rig ν} {index : Nat}
    (h : r.snapshot? index = none) (matcher : Matcher) :
    r.resolveChain matcher r.stages index =
      ⟨none, r.stages.map (r.resolveBlock matcher none)⟩ := by
  have hstages : ∀ stage ∈ r.stages,
      r.resolveBlock matcher none (stage.withSelectedInstrument r none) =
        r.resolveBlock matcher none stage := by
    intro stage hstage
    rw [ChainBlock.withSelectedInstrument_none hstage]
  simp only [resolveChain, h, Option.map_none, List.map_congr_left hstages]

/-- The resolved stage of a path and a key is the state of the block stored there. -/
theorem get?_resolveChain_onPath (r : Rig ν) (matcher : Matcher) (index : Nat)
    (path : DspPath) (key : String) :
    (r.resolveChain matcher r.stages index).get? (.onPath path key) =
      (r.block? path key).map (fun block =>
        r.resolveBlock matcher (r.snapshot? index) ⟨.onPath path key, block⟩) := by
  cases h : r.block? path key with
  | none =>
      have hnot : ¬ ((r.resolveChain matcher r.stages index).get? (.onPath path key)).isSome := by
        rw [ResolvedChain.isSome_get?_iff, ids_resolveChain, onPath_mem_ids_iff, h]
        simp
      simpa using hnot
  | some block =>
      refine ResolvedChain.get?_eq_some_of_mem (r.resolveChain_ids_nodup matcher index)
        (b := r.resolveBlock matcher (r.snapshot? index) ⟨.onPath path key, block⟩) ?_
      rw [blocks_resolveChain_stages]
      refine List.mem_append_right _ (List.mem_map.2 ⟨⟨.onPath path key, block⟩, ?_, rfl⟩)
      exact mem_blockStages_iff.2 ⟨path, key, block, h, rfl⟩

/-- The resolved stage of the instrument is the state of the selected instrument. -/
theorem get?_resolveChain_instrument (r : Rig ν) (matcher : Matcher) (index : Nat) :
    (r.resolveChain matcher r.stages index).get? .instrument =
      r.usedInstrument?.map (fun base =>
        r.resolveBlock matcher (r.snapshot? index)
          (selectedInstrument base (r.snapshot? index)).toChainBlock) := by
  cases h : r.usedInstrument? with
  | none =>
      have hnot : ¬ ((r.resolveChain matcher r.stages index).get? .instrument).isSome := by
        rw [ResolvedChain.isSome_get?_iff, ids_resolveChain, stages_eq, h]
        exact r.instrument_not_mem_ids_blockStages
      simpa using hnot
  | some base =>
      refine ResolvedChain.get?_eq_some_of_mem (r.resolveChain_ids_nodup matcher index)
        (b := r.resolveBlock matcher (r.snapshot? index)
          (selectedInstrument base (r.snapshot? index)).toChainBlock) ?_
      rw [blocks_resolveChain_stages, h]
      exact List.mem_cons_self

end Rig

end SignalChain
