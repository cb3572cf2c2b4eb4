import SignalChain.Proofs.Chain.View

/-!
# Snapshots that are listed as stored state

The listing calls a snapshot "stored state" when it finds neither data of the
device nor a hint in it.  Such a snapshot shows every stored block as no
snapshot does.  The older record for the instrument is not among what the
listing looks at, but it still applies: the instrument is shown as stored
exactly when that record makes no other stage of it.
-/

namespace SignalChain

variable {ν : Type}

/-! ## What the label says -/

theorem Snapshot.sourceLabel_eq_storedState_iff {s : Snapshot} :
    s.sourceLabel = "stored state" ↔
      s.blocks = none ∧ s.params = none ∧ s.instrumentControllers = none ∧ s.hint = none := by
  obtain ⟨name, blocks, params, controllers, instrument, hint⟩ := s
  cases blocks <;> cases params <;> cases controllers <;> cases hint <;>
    simp [sourceLabel, hasTechnicalData]

/-- An override that is empty replaces nothing. -/
theorem Instrument.merge_of_isEmpty {base : Instrument} {o : InstrumentOverride}
    (h : o.isEmpty = true) : base.merge o = base := by
  simp only [InstrumentOverride.isEmpty, Bool.and_eq_true, Option.isNone_iff_eq_none] at h
  obtain ⟨⟨hmodel, hcustom⟩, htunings⟩ := h
  simp [merge, hmodel, hcustom, htunings]

theorem selectedInstrument_of_controllers {s : Snapshot} {o : InstrumentOverride}
    (h : s.instrumentControllers = some o) (base : Instrument) :
    selectedInstrument base (some s) = base.merge o := by
  simp only [selectedInstrument, h]

/-- Without controllers of its own, a snapshot has its older record to go by. -/
theorem selectedInstrument_of_noControllers {s : Snapshot} (h : s.instrumentControllers = none)
    (base : Instrument) : selectedInstrument base (some s) = s.instrument.elim base base.merge := by
  simp only [selectedInstrument, h]
  cases s.instrument with
  | none => rfl
  | some o =>
      by_cases hempty : o.isEmpty = true
      · simp [hempty, Instrument.merge_of_isEmpty hempty]
      · simp [hempty]

theorem selectedInstrument_none (base : Instrument) : selectedInstrument base none = base :=
  rfl

/-! ## One stage -/

namespace ChainBlock

theorem selectedState_of_noDecision {s : Snapshot} (hblocks : s.blocks = none)
    (hhint : s.hint = none) (stage : ChainBlock) (matcher : Matcher) :
    stage.selectedState matcher (some s) = stage.selectedState matcher none := by
  unfold selectedState
  cases stage.id with
  | instrument => rfl
  | onPath path key => simp [hblocks, hhint]

theorem selectedParams_of_noValues {s : Snapshot} (hparams : s.params = none)
    (stage : ChainBlock) : stage.selectedParams (some s) = stage.selectedParams none := by
  unfold selectedParams
  cases stage.id with
  | instrument => rfl
  | onPath path key =>
      simp only [Snapshot.paramValue?, hparams, Option.bind_none]
      exact Table.map_self stage.block.params

end ChainBlock

/-- Two states of a stage have the same name, the same switch and the same parameters. -/
structure ResolvedBlock.SameShown (b b' : ResolvedBlock ν) : Prop where
  displayName : b'.displayName = b.displayName
  enabled : b'.enabled = b.enabled
  params : b'.params = b.params

section Stages

variable [Amount ν] {r : Rig ν} {s : Snapshot} (h : s.sourceLabel = "stored state")
include h

theorem Rig.sameShown_resolveBlock (matcher : Matcher) (stage : ChainBlock) :
    (r.resolveBlock matcher (some s) stage).SameShown (r.resolveBlock matcher none stage) := by
  obtain ⟨hblocks, hparams, -, hhint⟩ := Snapshot.sourceLabel_eq_storedState_iff.1 h
  refine ⟨rfl, ?_, ?_⟩
  · have hstate := stage.selectedState_of_noDecision hblocks hhint matcher
    exact congrArg Prod.fst hstate.symm
  · exact (stage.selectedParams_of_noValues hparams).symm

/-- The name and the parameters of an instrument's stage are all that there is to it. -/
theorem Rig.sameShown_instrument_iff (matcher : Matcher) (i j : Instrument) :
    (r.resolveBlock matcher (some s) i.toChainBlock).SameShown
        (r.resolveBlock matcher none j.toChainBlock) ↔
      i.toChainBlock = j.toChainBlock := by
  have hstored := sameShown_resolveBlock (r := r) h matcher i.toChainBlock
  constructor
  · intro hshown
    have hname : j.toChainBlock.block.model = i.toChainBlock.block.model := hshown.displayName
    have hparams : j.toChainBlock.block.params = i.toChainBlock.block.params :=
      hshown.params.trans hstored.params.symm
    have hparts : ∀ k : Instrument, k.toChainBlock =
        ⟨.instrument, { Block.ofModel k.toChainBlock.block.model with
          params := k.toChainBlock.block.params }⟩ := fun _ => rfl
    rw [hparts i, hparts j, hname, hparams]
  · intro hsame
    rw [hsame] at hstored ⊢
    exact hstored

end Stages

/-! ## Whole views -/

/-- The older record of a snapshot makes no other stage of the instrument in use. -/
def Rig.KeepsInstrument (r : Rig ν) (s : Snapshot) : Prop :=
  ∀ base o, r.usedInstrument? = some base → s.instrument = some o →
    (base.merge o).toChainBlock = base.toChainBlock

variable [Amount ν]

theorem Engine.sameShown_view_iff (e : Engine ν) {r : Rig ν} {i j : Nat} {s : Snapshot}
    (hs : r.snapshot? i = some s) (h : s.sourceLabel = "stored state")
    (hj : r.snapshot? j = none) :
    List.Forall₂ ResolvedBlock.SameShown (e.view r i).chain.blocks (e.view r j).chain.blocks ↔
      r.KeepsInstrument s := by
  obtain ⟨-, -, hcontrollers, -⟩ := Snapshot.sourceLabel_eq_storedState_iff.1 h
  have hblocks : List.Forall₂ ResolvedBlock.SameShown
      (r.blockStages.map (r.resolveBlock e.matcher (some s)))
      (r.blockStages.map (r.resolveBlock e.matcher none)) := by
    rw [List.forall₂_map_left_iff, List.forall₂_map_right_iff, List.forall₂_same]
    exact fun stage _ => Rig.sameShown_resolveBlock h e.matcher stage
  simp only [e.chain_view, Rig.blocks_resolveChain_stages, hs, hj, Rig.KeepsInstrument]
  cases r.usedInstrument? with
  | none => simpa using hblocks
  | some base =>
      simp only [Option.toList_some, List.map_cons, List.map_nil, List.cons_append,
        List.nil_append, List.forall₂_cons, hblocks, and_true, Option.some.injEq,
        selectedInstrument_of_noControllers hcontrollers, selectedInstrument_none,
        Rig.sameShown_instrument_iff h]
      cases s.instrument <;> simp

/--
Under a snapshot that is listed as stored state, every stored block has the
name, the switch and the parameters that it has without a snapshot.  All stages
do exactly when the snapshot's older record leaves the instrument's stage as it
is.
-/
theorem storedState_shown_iff (e : Engine ν) {r : Rig ν} (h : r.HasPath) {i j : Nat}
    {s : Snapshot} (hs : r.snapshot? i = some s) (hlabel : s.sourceLabel = "stored state")
    (hj : r.snapshots.length ≤ j) :
    ∃ v w, e.resolve r i = .ok v ∧ e.resolve r j = .ok w ∧
      (∀ path key, Option.Rel ResolvedBlock.SameShown
        (v.chain.get? (.onPath path key)) (w.chain.get? (.onPath path key))) ∧
      (List.Forall₂ ResolvedBlock.SameShown v.chain.blocks w.chain.blocks ↔
        r.KeepsInstrument s) := by
  have hnone : r.snapshot? j = none := Rig.snapshot?_eq_none_iff.2 hj
  refine ⟨e.view r i, e.view r j, e.resolve_of_hasPath h i, e.resolve_of_hasPath h j, ?_,
    e.sameShown_view_iff hs hlabel hnone⟩
  intro path key
  rw [e.get?_view_onPath, e.get?_view_onPath, hs, hnone]
  cases r.block? path key with
  | none => exact .none
  | some block => exact .some (Rig.sameShown_resolveBlock hlabel e.matcher _)

/-- An instrument and one snapshot whose older record gives it a model. -/
def olderRecordRig (model : Option UInt32) : Rig Float :=
  { (Rig.new : Rig Float) with
    instrument := some { Instrument.default with modelId := 18 }
    snapshots := [(Snapshot.ofName "Acoustic").withInstrument ⟨model, none, none⟩] }

/-- A record that gives the model that the instrument already has. -/
theorem storedState_shown_iff_sameModel :
    let r := olderRecordRig (some 18)
    r.HasPath ∧ ∃ s, r.snapshot? 0 = some s ∧ s.sourceLabel = "stored state" ∧
      r.KeepsInstrument s ∧
      ∃ v w, Engine.standard.resolve r 0 = .ok v ∧ Engine.standard.resolve r 1 = .ok w ∧
        List.Forall₂ ResolvedBlock.SameShown v.chain.blocks w.chain.blocks := by
  intro r
  have hpath : r.HasPath := Or.inl rfl
  have hlabel : ((Snapshot.ofName "Acoustic").withInstrument
      ⟨some 18, none, none⟩).sourceLabel = "stored state" := rfl
  have hkeeps : r.KeepsInstrument
      ((Snapshot.ofName "Acoustic").withInstrument ⟨some 18, none, none⟩) := by
    intro base o hbase ho
    have hmodel : base = { Instrument.default with modelId := 18 } :=
      (Option.some.inj (Rig.instrument_of_usedInstrument? hbase)).symm
    have hrecord : o = ⟨some 18, none, none⟩ := (Option.some.inj ho).symm
    rw [hmodel, hrecord]
    rfl
  obtain ⟨v, w, hv, hw, -, hiff⟩ :=
    storedState_shown_iff Engine.standard hpath (i := 0) (j := 1) rfl hlabel (by decide)
  exact ⟨hpath, _, rfl, hlabel, hkeeps, v, w, hv, hw, hiff.2 hkeeps⟩

/-- The label is not true of a record that gives the instrument another model. -/
theorem storedState_shows_other_model :
    let r := olderRecordRig (some 50)
    r.snapshots.map Snapshot.sourceLabel = ["stored state"] ∧
      ∃ v w, Engine.standard.resolve r 0 = .ok v ∧ Engine.standard.resolve r 1 = .ok w ∧
        v.chain.blocks.map (fun b => b.displayName) = ["Acoustic 1"] ∧
        w.chain.blocks.map (fun b => b.displayName) = ["Lester 3"] := by
  intro r
  have hpath : r.HasPath := Or.inl rfl
  refine ⟨rfl, _, _, Engine.standard.resolve_of_hasPath hpath 0,
    Engine.standard.resolve_of_hasPath hpath 1, ?_, ?_⟩
  · decide +kernel
  · decide +kernel

end SignalChain
