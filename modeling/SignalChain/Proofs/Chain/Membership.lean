import SignalChain.Proofs.Chain.Budget
import SignalChain.Proofs.Chain.Switch

/-!
# Which snapshots want a stage

Every stage lists the snapshots whose hints name it.  A stored block goes by the
same names under every snapshot, so its list never changes.  The instrument goes
by the name of the model that the selected snapshot gives it, and its list is
the same under two indices exactly when the hints cannot tell the two names
apart.
-/

namespace SignalChain

variable {ν : Type}

/-! ## Snapshots by name -/

/-- Snapshots with distinct names are told apart by the list of the names. -/
theorem map_filter_name_eq_iff {snapshots : List Snapshot}
    (h : (snapshots.map (fun s => s.name)).Nodup) {p q : Snapshot → Bool} :
    (snapshots.filter p).map (fun s => s.name) = (snapshots.filter q).map (fun s => s.name) ↔
      ∀ s ∈ snapshots, p s = q s := by
  constructor
  · intro heq s hs
    have hname : ∀ {f : Snapshot → Bool},
        s.name ∈ (snapshots.filter f).map (fun s => s.name) ↔ f s = true := by
      intro f
      constructor
      · intro hmem
        obtain ⟨t, ht, hts⟩ := List.mem_map.1 hmem
        obtain ⟨htmem, hft⟩ := List.mem_filter.1 ht
        rwa [← List.inj_on_of_nodup_map h htmem hs hts]
      · intro hfs
        exact List.mem_map.2 ⟨s, List.mem_filter.2 ⟨hs, hfs⟩, rfl⟩
    rw [Bool.eq_iff_iff, ← hname, ← hname, heq]
  · intro hsame
    rw [List.filter_congr hsame]

/-! ## The names of the instrument -/

/-- A hint means the instrument, by the name of its model or by the name of any instrument. -/
def Hint.MeansInstrument (hint : Hint) (matcher : Matcher) (model : String) : Prop :=
  ∃ reference ∈ hint.activeBlocks,
    matcher reference model = true ∨ matcher reference InstrumentModel.genericName = true

theorem Hint.activates_instrument_iff {hint : Hint} {matcher : Matcher} {model : String} :
    hint.activates matcher [model, InstrumentModel.genericName] = true ↔
      hint.MeansInstrument matcher model := by
  simp [activates_iff, MeansInstrument]

theorem ChainBlock.candidateNames_selectedInstrument (r : Rig ν) (base : Instrument)
    (index : Nat) :
    (selectedInstrument base (r.snapshot? index)).toChainBlock.candidateNames =
      [r.selectedModelName base index, InstrumentModel.genericName] := by
  have hname : (selectedInstrument base (r.snapshot? index)).toChainBlock.displayName =
      r.selectedModelName base index := r.model_selectedInstrument base index
  simp [candidateNames, hname, BlockId.isInstrument]

namespace Rig

/-- The snapshots whose hints want the instrument on, by its names under an index. -/
def instrumentMembership? (r : Rig ν) (matcher : Matcher) (index : Nat) : Option (List String) :=
  r.usedInstrument?.map (fun base =>
    activeSnapshots matcher [r.selectedModelName base index, InstrumentModel.genericName]
      r.snapshots)

/-- No hint of a rig can tell the names apart that its instrument has under two indices. -/
def HintsAgreeOnInstrument (r : Rig ν) (matcher : Matcher) (i j : Nat) : Prop :=
  ∀ base, r.usedInstrument? = some base → ∀ s ∈ r.snapshots, ∀ hint, s.hint = some hint →
    (hint.MeansInstrument matcher (r.selectedModelName base i) ↔
      hint.MeansInstrument matcher (r.selectedModelName base j))

/-- With distinct names of snapshots, the membership changes exactly when some hint does. -/
theorem instrumentMembership?_eq_iff {r : Rig ν} (matcher : Matcher) (i j : Nat)
    (h : (r.snapshots.map (fun s => s.name)).Nodup) :
    r.instrumentMembership? matcher i = r.instrumentMembership? matcher j ↔
      r.HintsAgreeOnInstrument matcher i j := by
  unfold instrumentMembership? HintsAgreeOnInstrument
  cases r.usedInstrument? with
  | none =>
      simp
  | some base =>
      simp only [Option.map_some, Option.some.injEq, forall_eq', activeSnapshots,
        map_filter_name_eq_iff h]
      refine forall₂_congr fun s _ => ?_
      cases hhint : s.hint with
      | none =>
          simp
      | some hint =>
          simp only [Option.any_some, Option.some.injEq, forall_eq',
            ← Hint.activates_instrument_iff]
          exact Bool.eq_iff_iff

end Rig

namespace Engine

variable [Amount ν]

theorem membership_view_onPath (e : Engine ν) (r : Rig ν) (index : Nat) (path : DspPath)
    (key : String) :
    ((e.view r index).chain.get? (.onPath path key)).map (fun b => b.activeIn) =
      (r.block? path key).map (fun block =>
        activeSnapshots e.matcher
          (ChainBlock.candidateNames ⟨.onPath path key, block⟩) r.snapshots) := by
  rw [e.get?_view_onPath, Option.map_map]
  rfl

theorem membership_view_instrument (e : Engine ν) (r : Rig ν) (index : Nat) :
    ((e.view r index).chain.get? .instrument).map (fun b => b.activeIn) =
      r.instrumentMembership? e.matcher index := by
  rw [e.get?_view_instrument, Option.map_map, Rig.instrumentMembership?]
  congr 1
  funext base
  rw [← ChainBlock.candidateNames_selectedInstrument]
  rfl

/-- The memberships of all stages agree when those of the instrument do. -/
theorem membership_view_eq_iff (e : Engine ν) (r : Rig ν) (i j : Nat) :
    (∀ id, ((e.view r i).chain.get? id).map (fun b => b.activeIn) =
        ((e.view r j).chain.get? id).map (fun b => b.activeIn)) ↔
      r.instrumentMembership? e.matcher i = r.instrumentMembership? e.matcher j := by
  constructor
  · intro hall
    rw [← e.membership_view_instrument, ← e.membership_view_instrument]
    exact hall .instrument
  · intro hinstrument id
    cases id with
    | instrument =>
        rw [e.membership_view_instrument, e.membership_view_instrument, hinstrument]
    | onPath path key =>
        rw [e.membership_view_onPath, e.membership_view_onPath]

end Engine

/-! ## Two indices -/

/--
Each stored block is wanted by the same snapshots under any two indices.  All
stages are exactly when the instrument is, and with distinct names of snapshots
this means that no hint tells the two names of the instrument's model apart.
-/
theorem membership_eq_iff_instrumentMembership?_eq [Amount ν] (e : Engine ν) (r : Rig ν)
    (h : r.HasPath) (i j : Nat) :
    ∃ v w, e.resolve r i = .ok v ∧ e.resolve r j = .ok w ∧
      (∀ path key, (v.chain.get? (.onPath path key)).map (fun b => b.activeIn) =
        (w.chain.get? (.onPath path key)).map (fun b => b.activeIn)) ∧
      ((∀ id, (v.chain.get? id).map (fun b => b.activeIn) =
          (w.chain.get? id).map (fun b => b.activeIn)) ↔
        r.instrumentMembership? e.matcher i = r.instrumentMembership? e.matcher j) ∧
      ((r.snapshots.map (fun s => s.name)).Nodup →
        ((∀ id, (v.chain.get? id).map (fun b => b.activeIn) =
            (w.chain.get? id).map (fun b => b.activeIn)) ↔
          r.HintsAgreeOnInstrument e.matcher i j)) := by
  refine ⟨e.view r i, e.view r j, e.resolve_of_hasPath h i, e.resolve_of_hasPath h j, ?_,
    e.membership_view_eq_iff r i j, ?_⟩
  · intro path key
    rw [e.membership_view_onPath, e.membership_view_onPath]
  · intro hnames
    rw [e.membership_view_eq_iff, Rig.instrumentMembership?_eq_iff e.matcher i j hnames]

/-- A hint that names the stored model, in a snapshot that selects another one. -/
def renamedModelRig : Rig Float :=
  { (Rig.empty : Rig Float) with
    path0 := some Table.empty
    instrument := some { Instrument.default with modelId := 18 }
    snapshots :=
      [((Snapshot.ofName "Acoustic").withInstrumentControllers ⟨some 50, none, none⟩).withHint
        ⟨["Lester 3"], Table.empty, none, none⟩] }

theorem membership_eq_iff_instrumentMembership?_eq_renamedModel :
    renamedModelRig.HasPath ∧ (renamedModelRig.snapshots.map (fun s => s.name)).Nodup ∧
      ∃ v w, Engine.standard.resolve renamedModelRig 1 = .ok v ∧
        Engine.standard.resolve renamedModelRig 2 = .ok w ∧
        (∀ id, (v.chain.get? id).map (fun b => b.activeIn) =
          (w.chain.get? id).map (fun b => b.activeIn)) ∧
        renamedModelRig.HintsAgreeOnInstrument Matcher.substring 1 2 := by
  have hpath : renamedModelRig.HasPath := Or.inl rfl
  have hnames : (renamedModelRig.snapshots.map (fun s => s.name)).Nodup := by decide
  obtain ⟨v, w, hv, hw, -, hiff, hdistinct⟩ :=
    membership_eq_iff_instrumentMembership?_eq Engine.standard renamedModelRig hpath 1 2
  have hsame := hiff.2 rfl
  exact ⟨hpath, hnames, v, w, hv, hw, hsame, (hdistinct hnames).1 hsame⟩

/-- The snapshots that want the instrument are not the same under all indices. -/
theorem membership_differs_by_snapshot :
    ∃ v w, Engine.standard.resolve renamedModelRig 0 = .ok v ∧
      Engine.standard.resolve renamedModelRig 1 = .ok w ∧
      (v.chain.get? .instrument).map (fun b => b.activeIn) = some [] ∧
      (w.chain.get? .instrument).map (fun b => b.activeIn) = some ["Acoustic"] := by
  have hpath : renamedModelRig.HasPath := Or.inl rfl
  refine ⟨_, _, Engine.standard.resolve_of_hasPath hpath 0,
    Engine.standard.resolve_of_hasPath hpath 1, ?_, ?_⟩
  · rw [Engine.membership_view_instrument]
    decide +kernel
  · rw [Engine.membership_view_instrument]
    decide +kernel

end SignalChain
