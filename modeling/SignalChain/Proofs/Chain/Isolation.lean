import SignalChain.Proofs.Chain.Budget

/-!
# What a view takes from the other snapshots

A view looks at the snapshot that is selected.  Of the others it only shows the
names of those that want a stage, and the warnings.  So two rigs on the same
device have the same stages, in the same states, and the same budget whenever
the selected snapshots are the same, however their other snapshots differ.
-/

namespace SignalChain

variable {ν : Type}

/-! ## Stages of the same device -/

namespace Rig.SameDevice

variable {r r' : Rig ν}

theorem pathStages_eq (h : r.SameDevice r') : r'.pathStages = r.pathStages := by
  funext path
  rw [pathStages, pathStages, h.path?_eq]

theorem instrumentInUse_eq (h : r.SameDevice r') : r'.instrumentInUse = r.instrumentInUse := by
  funext base
  rw [instrumentInUse, instrumentInUse, h.controllers]

theorem stages_eq (h : r.SameDevice r') : r'.stages = r.stages := by
  simp only [stages, instrumentStage, h.instrument, h.instrumentInUse_eq, h.pathStages_eq]

theorem withSelectedInstrument_eq (h : r.SameDevice r') (stage : ChainBlock)
    (snapshot : Option Snapshot) :
    stage.withSelectedInstrument r' snapshot = stage.withSelectedInstrument r snapshot := by
  simp only [ChainBlock.withSelectedInstrument, h.instrument]

end Rig.SameDevice

/-! ## The state of a stage -/

/-- Two states of a stage differ in no more than the snapshots that want it. -/
def ResolvedBlock.SameState (b b' : ResolvedBlock ν) : Prop :=
  b' = { b with activeIn := b'.activeIn }

variable [Amount ν]

theorem Rig.SameDevice.resolveBlock_sameState {r r' : Rig ν} (h : r.SameDevice r')
    (matcher : Matcher) (snapshot : Option Snapshot) (stage : ChainBlock) :
    (r.resolveBlock matcher snapshot stage).SameState
      (r'.resolveBlock matcher snapshot stage) := by
  simp only [ResolvedBlock.SameState, resolveBlock, h.controllers, h.costs]

/-- Whatever holds stage by stage on one device holds all along two views. -/
theorem Engine.forall₂_blocks_view (e : Engine ν) {r r' : Rig ν} (h : r.SameDevice r')
    {i j : Nat} {related : ResolvedBlock ν → ResolvedBlock ν → Prop}
    (hstage : ∀ stage : ChainBlock,
      related
        (r.resolveBlock e.matcher (r.snapshot? i)
          (stage.withSelectedInstrument r (r.snapshot? i)))
        (r'.resolveBlock e.matcher (r'.snapshot? j)
          (stage.withSelectedInstrument r (r'.snapshot? j)))) :
    List.Forall₂ related (e.view r i).chain.blocks (e.view r' j).chain.blocks := by
  simp only [chain_view, Rig.resolveChain, h.stages_eq, h.withSelectedInstrument_eq]
  rw [List.forall₂_map_left_iff, List.forall₂_map_right_iff, List.forall₂_same]
  intro stage _
  exact hstage stage

/-! ## The budget of a view -/

theorem Budget.ofBlocks_congr {costs : CostTable ν} {blocks blocks' : List (ResolvedBlock ν)}
    (h : List.Forall₂ (fun b b' => b'.id = b.id ∧ b'.block = b.block) blocks blocks') :
    ofBlocks costs blocks' = ofBlocks costs blocks := by
  have hstages : blocks'.map (fun b => (⟨b.id, b.block⟩ : ChainBlock)) =
      blocks.map (fun b => ⟨b.id, b.block⟩) := by
    induction h with
    | nil =>
        rfl
    | cons hb _ ih =>
        rw [List.map_cons, List.map_cons, hb.1, hb.2, ih]
  rw [ofBlocks_eq_chargeStages, ofBlocks_eq_chargeStages, hstages]

/-- Two views that show the same stages have the same budget under the same costs. -/
theorem Engine.budget_view_congr (e : Engine ν) {r r' : Rig ν} (hcosts : r'.costs = r.costs)
    {i j : Nat}
    (h : List.Forall₂ (fun b b' => b'.id = b.id ∧ b'.block = b.block)
      (e.view r i).chain.blocks (e.view r' j).chain.blocks) :
    (e.view r' j).budget = (e.view r i).budget := by
  have hbudget : ∀ (r : Rig ν) (index : Nat), (e.view r index).budget =
      (Budget.ofBlocks r.costs (e.view r index).chain.blocks).withCeiling e.ceiling :=
    fun _ _ => rfl
  rw [hbudget, hbudget, hcosts, Budget.ofBlocks_congr h]

/-- Views that show the same stages differ in no more than their states and the warnings. -/
theorem Engine.view_congr (e : Engine ν) {r r' : Rig ν} (hcosts : r'.costs = r.costs) {index : Nat}
    (hname : (r'.snapshot? index).map (fun s => s.name) =
      (r.snapshot? index).map (fun s => s.name))
    (h : List.Forall₂ (fun b b' => b'.id = b.id ∧ b'.block = b.block)
      (e.view r index).chain.blocks (e.view r' index).chain.blocks) :
    e.view r' index =
      { e.view r index with
        chain := { (e.view r index).chain with blocks := (e.view r' index).chain.blocks }
        warnings := r'.warnings } := by
  have hbudget : (e.view r' index).budget = (e.view r index).budget :=
    e.budget_view_congr hcosts h
  have hlevel : (e.view r' index).level = (e.view r index).level := by
    rw [e.level_view, e.level_view, hbudget]
  have hsnapshot : (e.view r' index).chain.snapshot = (e.view r index).chain.snapshot := by
    have hsummary := congrArg (Option.map (SnapshotSummary.mk index)) hname
    rwa [Option.map_map, Option.map_map] at hsummary
  simp only [← hbudget, ← hlevel, ← hsnapshot]
  rfl

/-! ## Two rigs with the same selection -/

/--
Two views differ in no more than the snapshots that want each stage, the index
of the selected snapshot and the warnings.
-/
structure View.SameSelection (v w : View ν) : Prop where
  blocks : List.Forall₂ ResolvedBlock.SameState v.chain.blocks w.chain.blocks
  name : w.chain.snapshot.map (fun s => s.name) = v.chain.snapshot.map (fun s => s.name)
  budget : w.budget = v.budget
  level : w.level = v.level

/-- A view depends on no snapshot but the one that is selected. -/
theorem snapshots_isolated (e : Engine ν) {r r' : Rig ν} (h : r.HasPath)
    (hdevice : r.SameDevice r') {i j : Nat} (hselected : r.snapshot? i = r'.snapshot? j) :
    ∃ v w, e.resolve r i = .ok v ∧ e.resolve r' j = .ok w ∧ v.SameSelection w := by
  have hblocks : List.Forall₂ ResolvedBlock.SameState
      (e.view r i).chain.blocks (e.view r' j).chain.blocks := by
    refine e.forall₂_blocks_view hdevice ?_
    intro stage
    rw [← hselected]
    exact hdevice.resolveBlock_sameState e.matcher (r.snapshot? i) _
  have hbudget : (e.view r' j).budget = (e.view r i).budget :=
    e.budget_view_congr hdevice.costs
      (hblocks.imp fun b b' hb => ⟨congrArg (·.id) hb, congrArg (·.block) hb⟩)
  refine ⟨e.view r i, e.view r' j, e.resolve_of_hasPath h i,
    e.resolve_of_hasPath (hdevice.hasPath h) j, hblocks, ?_, hbudget, ?_⟩
  · simp only [Engine.chain_view, Rig.resolveChain, ← hselected, Option.map_map]
    rfl
  · rw [e.level_view, e.level_view, hbudget]

/-- A rig with one block under some snapshots. -/
def oneBlockRig (snapshots : List Snapshot) : Rig Float :=
  { (Rig.empty : Rig Float) with
    path0 := some (Table.ofList [("a", Block.ofModel "BassBoost")])
    snapshots := snapshots }

/-- The same snapshot alone, and after one whose hint wants the block and which names a stranger. -/
theorem snapshots_isolated_afterAnother :
    let lead := (Snapshot.ofName "Lead").withBlockEnabled .path0 "a" false
    let other := ((Snapshot.ofName "Boost").withHint
      ⟨["boost"], Table.empty, none, none⟩).withParamValue .path1 "z" "Mix" 0.5
    (oneBlockRig [lead]).HasPath ∧
      (oneBlockRig [lead]).SameDevice (oneBlockRig [other, lead]) ∧
      (oneBlockRig [lead]).snapshot? 0 = (oneBlockRig [other, lead]).snapshot? 1 ∧
      ∃ v w, Engine.standard.resolve (oneBlockRig [lead]) 0 = .ok v ∧
        Engine.standard.resolve (oneBlockRig [other, lead]) 1 = .ok w ∧ v.SameSelection w := by
  intro lead other
  have hpath : (oneBlockRig [lead]).HasPath := Or.inl rfl
  have hdevice : (oneBlockRig [lead]).SameDevice (oneBlockRig [other, lead]) :=
    ⟨rfl, rfl, rfl, rfl, rfl⟩
  exact ⟨hpath, hdevice, rfl, snapshots_isolated Engine.standard hpath hdevice rfl⟩

end SignalChain
