import SignalChain.Proofs.Chain.Isolation
import SignalChain.Rig.Design

/-!
# What a design changes

A design only speaks through hints.  Attached to a rig it leaves the device's
data of every snapshot as they are, and the snapshots that it adds have none.
So under any index the stages, their parameters and their costs stay, and so do
the warnings.  A snapshot that the rig has keeps what it controls, and one that
has switches keeps what is on.
-/

namespace SignalChain

variable {ν : Type}

/-! ## Hints by index -/

/-- The snapshot of an index after a design was attached, from both lists at that index. -/
def hintedSnapshot : Option Snapshot → Option DesignSnapshot → Option Snapshot
  | snapshot, none => snapshot
  | none, some w => some ((Snapshot.ofName w.name).withHint w.hint)
  | some s, some w => some (s.withHint w.hint)

theorem getElem?_attachHints (snapshots : List Snapshot) (wanted : List DesignSnapshot)
    (index : Nat) :
    (attachHints snapshots wanted)[index]? =
      hintedSnapshot snapshots[index]? wanted[index]? := by
  induction snapshots generalizing wanted index with
  | nil =>
      cases wanted with
      | nil =>
          rfl
      | cons w wanted =>
          simp only [attachHints, List.getElem?_map, List.getElem?_nil]
          cases (w :: wanted)[index]? <;> rfl
  | cons s snapshots ih =>
      cases wanted with
      | nil =>
          simp only [attachHints, List.getElem?_nil]
          cases (s :: snapshots)[index]? <;> rfl
      | cons w wanted =>
          cases index with
          | zero =>
              rfl
          | succ index =>
              simpa [attachHints] using ih wanted index

theorem length_attachHints (snapshots : List Snapshot) (wanted : List DesignSnapshot) :
    (attachHints snapshots wanted).length = max snapshots.length wanted.length := by
  induction snapshots generalizing wanted with
  | nil => cases wanted <;> simp [attachHints]
  | cons s snapshots ih =>
      cases wanted with
      | nil => simp [attachHints]
      | cons w wanted => simp [attachHints, ih]

/-- What does not look at hints, and finds nothing in a snapshot without data, stays the same. -/
theorem flatMap_attachHints {α : Type} {f : Snapshot → List α}
    (hkept : ∀ s hint, f (s.withHint hint) = f s) (hnew : ∀ name, f (Snapshot.ofName name) = [])
    (snapshots : List Snapshot) (wanted : List DesignSnapshot) :
    (attachHints snapshots wanted).flatMap f = snapshots.flatMap f := by
  induction snapshots generalizing wanted with
  | nil =>
      have hadded : ∀ w ∈ wanted,
          f ((Snapshot.ofName w.name).withHint w.hint) = [] := by
        intro w _
        rw [hkept, hnew]
      cases wanted with
      | nil =>
          rfl
      | cons w wanted =>
          simpa [attachHints, List.flatMap_map] using hadded
  | cons s snapshots ih =>
      cases wanted with
      | nil =>
          rfl
      | cons w wanted =>
          simp only [attachHints, List.flatMap_cons, hkept, ih]

/-! ## The device's data of a selection -/

/-- What the device stored for the selected snapshot, which is nothing if none is. -/
def deviceData : Option Snapshot → Snapshot
  | none => Snapshot.ofName ""
  | some s => { s with name := "", hint := none }

theorem deviceData_hintedSnapshot (snapshot : Option Snapshot) (wanted : Option DesignSnapshot) :
    deviceData (hintedSnapshot snapshot wanted) = deviceData snapshot := by
  cases snapshot <;> cases wanted <;> rfl

theorem selectedInstrument_deviceData (base : Instrument) (snapshot : Option Snapshot) :
    selectedInstrument base (some (deviceData snapshot)) = selectedInstrument base snapshot := by
  cases snapshot <;> rfl

namespace ChainBlock

theorem selectedParams_deviceData (stage : ChainBlock) (snapshot : Option Snapshot) :
    stage.selectedParams (some (deviceData snapshot)) = stage.selectedParams snapshot := by
  obtain ⟨id, block⟩ := stage
  cases id with
  | instrument =>
      cases snapshot <;> rfl
  | onPath path key =>
      cases snapshot with
      | none => exact Table.map_self block.params
      | some s => rfl

theorem withSelectedInstrument_deviceData (stage : ChainBlock) (r : Rig ν)
    (snapshot : Option Snapshot) :
    stage.withSelectedInstrument r (some (deviceData snapshot)) =
      stage.withSelectedInstrument r snapshot := by
  simp only [withSelectedInstrument, selectedInstrument_deviceData]

section SameDeviceData

variable {snapshot snapshot' : Option Snapshot} (h : deviceData snapshot' = deviceData snapshot)
include h

theorem selectedParams_of_deviceData (stage : ChainBlock) :
    stage.selectedParams snapshot' = stage.selectedParams snapshot := by
  rw [← stage.selectedParams_deviceData snapshot', h, stage.selectedParams_deviceData]

theorem withSelectedInstrument_of_deviceData (stage : ChainBlock) (r : Rig ν) :
    stage.withSelectedInstrument r snapshot' = stage.withSelectedInstrument r snapshot := by
  rw [← stage.withSelectedInstrument_deviceData r snapshot', h,
    stage.withSelectedInstrument_deviceData]

end SameDeviceData

/-- The switches of a snapshot that has any do not depend on its hint. -/
theorem selectedState_withHint (stage : ChainBlock) (matcher : Matcher) {s : Snapshot}
    (h : s.blocks.isSome) (hint : Hint) :
    stage.selectedState matcher (some (s.withHint hint)) =
      stage.selectedState matcher (some s) := by
  have hhinted : (s.withHint hint).blocks.isSome := h
  cases hid : stage.id with
  | instrument => simp only [selectedState, hid]
  | onPath path key =>
      simp only [selectedState, hid, h, hhinted, if_true]
      rfl

end ChainBlock

/-! ## A rig with a design -/

namespace Rig

theorem sameDevice_withDesign (r : Rig ν) (d : Design) : r.SameDevice (r.withDesign d) :=
  ⟨rfl, rfl, rfl, rfl, rfl⟩

theorem snapshot?_withDesign (r : Rig ν) (d : Design) (index : Nat) :
    (r.withDesign d).snapshot? index =
      hintedSnapshot (r.snapshot? index) d.snapshots[index]? :=
  getElem?_attachHints r.snapshots d.snapshots index

theorem warnings_withDesign [Amount ν] (r : Rig ν) (d : Design) :
    (r.withDesign d).warnings = r.warnings := by
  have hsnapshots : (r.withDesign d).snapshots.flatMap r.snapshotWarnings =
      r.snapshots.flatMap (r.snapshotWarnings (ν := ν)) :=
    flatMap_attachHints (fun _ _ => rfl) (fun _ => rfl) r.snapshots d.snapshots
  exact congrArg (fun found => DspPath.all.flatMap r.positionWarnings ++ found ++
    r.controllerWarnings ++ r.costWarnings) hsnapshots

theorem deviceData_withDesign (r : Rig ν) (d : Design) (index : Nat) :
    deviceData ((r.withDesign d).snapshot? index) = deviceData (r.snapshot? index) := by
  rw [snapshot?_withDesign, deviceData_hintedSnapshot]

end Rig

/-! ## Stages with the device's data -/

/-- Two states of a stage agree in all that the device decides. -/
structure ResolvedBlock.SameStage (b b' : ResolvedBlock ν) : Prop where
  id : b'.id = b.id
  block : b'.block = b.block
  params : b'.params = b.params
  displayName : b'.displayName = b.displayName
  category : b'.category = b.category
  cost : b'.cost = b.cost

variable [Amount ν]

/-- The device's data of a selection are all that a stage takes from it. -/
theorem Rig.SameDevice.resolveBlock_sameStage {r r' : Rig ν} (h : r.SameDevice r')
    {snapshot snapshot' : Option Snapshot} (hdata : deviceData snapshot' = deviceData snapshot)
    (matcher : Matcher) (stage : ChainBlock) :
    (r.resolveBlock matcher snapshot (stage.withSelectedInstrument r snapshot)).SameStage
      (r'.resolveBlock matcher snapshot' (stage.withSelectedInstrument r snapshot')) := by
  rw [stage.withSelectedInstrument_of_deviceData hdata r]
  let selected := stage.withSelectedInstrument r snapshot
  have hparams : selected.selectedParams snapshot' = selected.selectedParams snapshot :=
    selected.selectedParams_of_deviceData hdata
  have hcost : CostTable.costOf r'.costs selected.block.model =
      CostTable.costOf r.costs selected.block.model := by
    rw [h.costs]
  exact ⟨rfl, rfl, hparams, rfl, rfl, hcost⟩

/-! ## Views with a design -/

/--
Attaching a design keeps the stages of every view, their parameters, names,
categories and costs, the budget and the warnings.  A snapshot that was there
keeps what it controls, and with switches of its own it keeps what is on.
-/
theorem design_keeps_device (e : Engine ν) {r : Rig ν} (h : r.HasPath) (d : Design)
    (index : Nat) :
    ∃ v w, e.resolve r index = .ok v ∧ e.resolve (r.withDesign d) index = .ok w ∧
      List.Forall₂ ResolvedBlock.SameStage v.chain.blocks w.chain.blocks ∧
      w.budget = v.budget ∧ w.level = v.level ∧
      (r.withDesign d).validate = r.validate ∧ w.warnings = v.warnings ∧
      ∀ s, r.snapshot? index = some s →
        List.Forall₂ (fun b b' => b'.snapshotControlled = b.snapshotControlled)
          v.chain.blocks w.chain.blocks ∧
        (s.blocks.isSome →
          List.Forall₂ (fun b b' => b'.enabled = b.enabled ∧ b'.source = b.source)
            v.chain.blocks w.chain.blocks) := by
  have hdevice := r.sameDevice_withDesign d
  have hdata := r.deviceData_withDesign d index
  have hpath : (r.withDesign d).HasPath := hdevice.hasPath h
  have hstages : List.Forall₂ ResolvedBlock.SameStage (e.view r index).chain.blocks
      (e.view (r.withDesign d) index).chain.blocks :=
    e.forall₂_blocks_view hdevice fun stage =>
      hdevice.resolveBlock_sameStage hdata e.matcher stage
  have hbudget : (e.view (r.withDesign d) index).budget = (e.view r index).budget :=
    e.budget_view_congr hdevice.costs (hstages.imp fun _ _ hb => ⟨hb.id, hb.block⟩)
  refine ⟨e.view r index, e.view (r.withDesign d) index, e.resolve_of_hasPath h index,
    e.resolve_of_hasPath hpath index, hstages, hbudget, ?_, ?_, r.warnings_withDesign d, ?_⟩
  · rw [e.level_view, e.level_view, hbudget]
  · rw [Rig.validate_of_hasPath h, Rig.validate_of_hasPath hpath, r.warnings_withDesign d]
  · intro s hs
    have hselected := r.snapshot?_withDesign d index
    rw [hs] at hselected
    constructor
    · refine e.forall₂_blocks_view hdevice fun stage => ?_
      rw [hselected, hs]
      cases d.snapshots[index]? <;> rfl
    · intro hswitches
      refine e.forall₂_blocks_view hdevice fun stage => ?_
      rw [hselected, hs]
      cases d.snapshots[index]? with
      | none =>
          exact ⟨rfl, rfl⟩
      | some w =>
          have hstate := ChainBlock.selectedState_withHint
            (stage.withSelectedInstrument r (some s)) e.matcher hswitches w.hint
          exact ⟨congrArg Prod.fst hstate, congrArg Prod.snd hstate⟩

/-- A design that disagrees with the only snapshot's switches and adds a second snapshot. -/
def boostDesign : Design where
  suggestedName := ""
  explanation := ""
  guitarModel := none
  tuning := none
  chain := []
  snapshots :=
    [⟨"Boost", ["boost"], none, none, Table.empty⟩, ⟨"Ambient", ["reverb"], none, none, Table.empty⟩]

theorem design_keeps_device_boost :
    let r := oneBlockRig [(Snapshot.ofName "Lead").withBlockEnabled .path0 "a" false]
    r.HasPath ∧ r.snapshot? 1 = none ∧
      (∃ v w, Engine.standard.resolve r 1 = .ok v ∧
        Engine.standard.resolve (r.withDesign boostDesign) 1 = .ok w ∧
        List.Forall₂ ResolvedBlock.SameStage v.chain.blocks w.chain.blocks) ∧
      ∃ v w, Engine.standard.resolve r 0 = .ok v ∧
        Engine.standard.resolve (r.withDesign boostDesign) 0 = .ok w ∧
        List.Forall₂ (fun b b' => b'.enabled = b.enabled ∧ b'.source = b.source)
          v.chain.blocks w.chain.blocks := by
  intro r
  have hpath : r.HasPath := Or.inl rfl
  obtain ⟨v, w, hv, hw, hstages, -⟩ :=
    design_keeps_device Engine.standard hpath boostDesign 1
  obtain ⟨v', w', hv', hw', -, -, -, -, -, hlisted⟩ :=
    design_keeps_device Engine.standard hpath boostDesign 0
  exact ⟨hpath, rfl, ⟨v, w, hv, hw, hstages⟩, v', w', hv', hw', (hlisted _ rfl).2 rfl⟩

end SignalChain
