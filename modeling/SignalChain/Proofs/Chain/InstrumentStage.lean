import SignalChain.Proofs.Chain.Category
import SignalChain.Proofs.Chain.StoredState

/-!
# The stage of the instrument

The rig alone decides whether its chain has an instrument: whether one is stored
that has a model or a controller.  What the stage then holds, the selected
snapshot decides.  It takes each field of the controllers' record, or else of an
older record with any field, over that of the stored instrument; the family is
never replaced.  The stage is always on, and no block of a path is of its
category.
-/

namespace SignalChain

/-! ## The selected instrument -/

/-- A value is the one that is given, if any is, and otherwise the one from before. -/
def Replaced {α : Type} (given : Option α) (before value : α) : Prop :=
  (∀ x, given = some x → value = x) ∧ (given = none → value = before)

theorem replaced_iff {α : Type} {given : Option α} {before value : α} :
    Replaced given before value ↔ value = given.getD before := by
  unfold Replaced
  cases given with
  | none => simp
  | some x => simp

theorem InstrumentOverride.isEmpty_iff {o : InstrumentOverride} :
    o.isEmpty = true ↔ o = ⟨none, none, none⟩ := by
  obtain ⟨modelId, customTuning, stringTunings⟩ := o
  simp [isEmpty, and_assoc]

namespace Instrument

/-- An instrument with each field that an override gives, and with the stored family. -/
structure Takes (base : Instrument) (o : InstrumentOverride) (m : Instrument) : Prop where
  modelId : Replaced o.modelId base.modelId m.modelId
  customTuning : Replaced o.customTuning base.customTuning m.customTuning
  stringTunings : Replaced o.stringTunings base.stringTunings m.stringTunings
  family_eq : m.family = base.family

theorem takes_iff {base m : Instrument} {o : InstrumentOverride} :
    base.Takes o m ↔ m = base.merge o := by
  constructor
  · rintro ⟨hmodel, hcustom, htunings, hfamily⟩
    cases m
    simp only [merge, Instrument.mk.injEq]
    exact ⟨replaced_iff.1 hmodel, hfamily, replaced_iff.1 hcustom, replaced_iff.1 htunings⟩
  · rintro rfl
    exact ⟨replaced_iff.2 rfl, replaced_iff.2 rfl, replaced_iff.2 rfl, rfl⟩

/-- The instrument that a selection makes of the stored one. -/
inductive SelectedBy (base : Instrument) : Option Snapshot → Instrument → Prop where
  /-- No snapshot is selected. -/
  | unselected : SelectedBy base none base
  /-- The controllers' record decides, even if it gives nothing. -/
  | controllers {s : Snapshot} {o : InstrumentOverride} {m : Instrument}
      (hrecord : s.instrumentControllers = some o) (htakes : base.Takes o m) :
      SelectedBy base (some s) m
  /-- Without it an older record decides that gives something. -/
  | older {s : Snapshot} {o : InstrumentOverride} {m : Instrument}
      (hnone : s.instrumentControllers = none) (hrecord : s.instrument = some o)
      (hgives : o ≠ ⟨none, none, none⟩) (htakes : base.Takes o m) :
      SelectedBy base (some s) m
  /-- Otherwise the instrument stays. -/
  | stored {s : Snapshot} (hnone : s.instrumentControllers = none)
      (hempty : ∀ o, s.instrument = some o → o = ⟨none, none, none⟩) :
      SelectedBy base (some s) base

theorem selectedBy_selectedInstrument (base : Instrument) (snapshot : Option Snapshot) :
    base.SelectedBy snapshot (selectedInstrument base snapshot) := by
  cases snapshot with
  | none => exact .unselected
  | some s =>
      cases hcontrollers : s.instrumentControllers with
      | some o =>
          rw [selectedInstrument_of_controllers hcontrollers]
          exact .controllers hcontrollers (takes_iff.2 rfl)
      | none =>
          rw [selectedInstrument_of_noControllers hcontrollers]
          cases hrecord : s.instrument with
          | none =>
              exact .stored hcontrollers fun o ho => nomatch hrecord.symm.trans ho
          | some o =>
              by_cases hempty : o = ⟨none, none, none⟩
              · rw [Option.elim_some, merge_of_isEmpty (InstrumentOverride.isEmpty_iff.2 hempty)]
                refine .stored hcontrollers ?_
                intro o' ho
                rw [← Option.some.inj (hrecord.symm.trans ho), hempty]
              · exact .older hcontrollers hrecord hempty (takes_iff.2 rfl)

/-- Every selection makes one instrument of the stored one. -/
theorem selectedBy_iff {base m : Instrument} {snapshot : Option Snapshot} :
    base.SelectedBy snapshot m ↔ m = selectedInstrument base snapshot := by
  constructor
  · intro h
    cases h with
    | unselected => rfl
    | controllers hrecord htakes =>
        rw [selectedInstrument_of_controllers hrecord, takes_iff.1 htakes]
    | older hnone hrecord hgives htakes =>
        rw [selectedInstrument_of_noControllers hnone, hrecord, takes_iff.1 htakes]
        rfl
    | stored hnone hempty =>
        rw [selectedInstrument_of_noControllers hnone]
        cases hrecord : SignalChain.Snapshot.instrument _ with
        | none => rfl
        | some o =>
            have hgives := InstrumentOverride.isEmpty_iff.2 (hempty o hrecord)
            exact (merge_of_isEmpty hgives).symm
  · rintro rfl
    exact base.selectedBy_selectedInstrument snapshot

end Instrument

/-! ## The parameters of the stage -/

theorem Table.get?_insertMany_eq_some_iff {κ α : Type} [Ord κ] [Std.TransOrd κ]
    [Std.LawfulEqOrd κ] {t : Table κ α} {entries : List (κ × α)}
    (h : ((t.toList ++ entries).map (·.1)).Nodup) {key : κ} {value : α} :
    (t.insertMany entries).get? key = some value ↔
      t.get? key = some value ∨ (key, value) ∈ entries := by
  rw [← mem_toList_iff, (t.toList_insertMany_perm h).mem_iff, List.mem_append, mem_toList_iff]

namespace Instrument

theorem keys_tuningParams (i : Instrument) :
    (tuningParams i).map (·.1) = if i.customTuning then stringParams else [] := by
  unfold tuningParams
  split
  · refine List.map_fst_zip ?_
    simp [stringParams]
  · rfl

/-- The stage holds the name of the model and the tunings, and nothing else. -/
theorem get?_params_toChainBlock_eq_some_iff (i : Instrument) {name : String}
    {value : ParamValue} :
    i.toChainBlock.block.params.get? name = some value ↔
      (name = modelParam ∧ value = .text (InstrumentModel.nameOf i.family i.modelId)) ∨
        (name, value) ∈ tuningParams i := by
  let named : Table String ParamValue :=
    Table.empty.insert modelParam (.text (InstrumentModel.nameOf i.family i.modelId))
  have hkeys : ((named.toList ++ tuningParams i).map (·.1)).Nodup := by
    rw [List.map_append, keys_tuningParams]
    split
    · exact (by decide : (modelParam :: stringParams).Nodup)
    · exact (by decide : [modelParam].Nodup)
  have hparams : i.toChainBlock.block.params = named.insertMany (tuningParams i) := rfl
  rw [hparams, Table.get?_insertMany_eq_some_iff hkeys, Table.get?_insert]
  split
  · next hname => simp [hname, eq_comm]
  · next hname => simp [hname]

theorem get?_params_toChainBlock_of_tuned {i : Instrument} (h : i.customTuning = true) {k : Nat}
    {name : String} {tuning : Int32} (hname : stringParams[k]? = some name)
    (htuning : i.stringTunings[k]? = some tuning) :
    i.toChainBlock.block.params.get? name = some (.number (Float.ofInt tuning.toInt)) := by
  refine i.get?_params_toChainBlock_eq_some_iff.2 (Or.inr ?_)
  rw [tuningParams, if_pos h]
  refine List.mem_of_getElem? (i := k) (List.getElem?_zip_eq_some.2 ⟨hname, ?_⟩)
  rw [List.getElem?_map, Vector.getElem?_toList, htuning]
  rfl

theorem get?_params_toChainBlock_eq_none {i : Instrument} {name : String}
    (hmodel : name ≠ modelParam)
    (htuning : name ∉ if i.customTuning then stringParams else []) :
    i.toChainBlock.block.params.get? name = none := by
  refine Option.eq_none_iff_forall_ne_some.2 fun value hvalue => ?_
  rcases i.get?_params_toChainBlock_eq_some_iff.1 hvalue with ⟨hname, -⟩ | hmem
  · exact hmodel hname
  · rw [← i.keys_tuningParams] at htuning
    exact htuning (List.mem_map.2 ⟨_, hmem, rfl⟩)

end Instrument

/-! ## The state of the stage -/

variable {ν : Type}

/--
A block shows an instrument: it is the instrument's stage, on whatever may speak
against it, under the name of the model.  Its parameters are that name and, if
the tuning is a custom one, the tuning of each string.
-/
structure ResolvedBlock.ShowsInstrument (b : ResolvedBlock ν) (m : Instrument) : Prop where
  stage_eq : (⟨b.id, b.block⟩ : ChainBlock) = m.toChainBlock
  enabled_eq : b.enabled = true
  source_eq : b.source = .stored
  model_eq : b.block.model = InstrumentModel.nameOf m.family m.modelId
  displayName_eq : b.displayName = InstrumentModel.nameOf m.family m.modelId
  params_eq : b.params = b.block.params
  named : b.params.get? modelParam = some (.text (InstrumentModel.nameOf m.family m.modelId))
  tuned : m.customTuning = true → ∀ (k : Nat) (name : String) (tuning : Int32),
    stringParams[k]? = some name → m.stringTunings[k]? = some tuning →
      b.params.get? name = some (.number (Float.ofInt tuning.toInt))
  untuned : m.customTuning = false → ∀ name ∈ stringParams, b.params.get? name = none
  others : ∀ name, name ≠ modelParam → name ∉ stringParams → b.params.get? name = none

variable [Amount ν]

theorem Rig.resolveBlock_showsInstrument (r : Rig ν) (matcher : Matcher)
    (snapshot : Option Snapshot) (m : Instrument) :
    (r.resolveBlock matcher snapshot m.toChainBlock).ShowsInstrument m := by
  have hparams : (r.resolveBlock matcher snapshot m.toChainBlock).params =
      m.toChainBlock.block.params := by
    cases snapshot <;> rfl
  refine ⟨rfl, ?_, ?_, rfl, rfl, hparams, ?_, ?_, ?_, ?_⟩
  · cases snapshot <;> rfl
  · cases snapshot <;> rfl
  · rw [hparams]
    exact m.get?_params_toChainBlock_eq_some_iff.2 (Or.inl ⟨rfl, rfl⟩)
  · intro hcustom k name tuning hname htuning
    rw [hparams]
    exact Instrument.get?_params_toChainBlock_of_tuned hcustom hname htuning
  · intro hcustom name hname
    have hmodel : name ≠ modelParam := by
      rintro rfl
      exact absurd hname (by decide)
    rw [hparams]
    refine Instrument.get?_params_toChainBlock_eq_none hmodel ?_
    rw [hcustom]
    exact List.not_mem_nil
  · intro name hmodel hname
    rw [hparams]
    refine Instrument.get?_params_toChainBlock_eq_none hmodel ?_
    split
    · exact hname
    · exact List.not_mem_nil

/-! ## Whole views -/

omit [Amount ν] in
theorem Rig.usedInstrument?_eq_some_iff {r : Rig ν} {base : Instrument} :
    r.usedInstrument? = some base ↔
      r.instrument = some base ∧
        (base.modelId ≠ 0 ∨ r.controllers.instrument.toList ≠ []) := by
  rw [usedInstrument?, Option.filter_eq_some_iff]
  refine and_congr_right fun _ => ?_
  simp [instrumentInUse, ControllerTable.hasInstrumentEntries, Table.isEmpty, Table.toList]

theorem Engine.category_view_iff (e : Engine ν) (r : Rig ν) (index : Nat) {b : ResolvedBlock ν}
    (hb : b ∈ (e.view r index).chain.blocks) : b.category = .instrument ↔ b.id = .instrument := by
  obtain ⟨stage, -, rfl⟩ := List.mem_map.1 hb
  exact ChainBlock.category_eq_instrument_iff

/-- The only stage of a view that is the instrument comes first. -/
theorem Engine.head?_view_of_id_eq (e : Engine ν) {r : Rig ν} {index : Nat} {b : ResolvedBlock ν}
    (hb : b ∈ (e.view r index).chain.blocks) (hid : b.id = .instrument) :
    (e.view r index).chain.blocks.head? = some b ∧
      ∃ base, r.usedInstrument? = some base ∧
        b = r.resolveBlock e.matcher (r.snapshot? index)
          (selectedInstrument base (r.snapshot? index)).toChainBlock := by
  rcases (e.mem_blocks_view_iff r index).1 hb with ⟨base, hbase, rfl⟩ | ⟨path, key, block, -, rfl⟩
  · refine ⟨?_, base, hbase, rfl⟩
    rw [e.chain_view, Rig.blocks_resolveChain_stages, hbase]
    rfl
  · cases hid

/--
Whether a view has the instrument's stage depends on the rig alone: on whether
an instrument is stored that has a model or a controller.  The stage is the
first and the only one of its category, and it shows the one instrument that the
selected snapshot makes of the stored one.
-/
theorem instrument_follows_snapshot (e : Engine ν) {r : Rig ν} (h : r.HasPath) (index : Nat) :
    ∃ v, e.resolve r index = .ok v ∧
      ((∃ b ∈ v.chain.blocks, b.id = .instrument) ↔
        ∃ base, r.instrument = some base ∧
          (base.modelId ≠ 0 ∨ r.controllers.instrument.toList ≠ [])) ∧
      ∀ b ∈ v.chain.blocks, b.id = .instrument →
        v.chain.blocks.head? = some b ∧
        (∀ c ∈ v.chain.blocks, c.category = .instrument ↔ c = b) ∧
        ∃ base m, r.instrument = some base ∧
          (∀ k, base.SelectedBy (r.snapshot? index) k ↔ k = m) ∧ b.ShowsInstrument m := by
  refine ⟨e.view r index, e.resolve_of_hasPath h index, ?_, ?_⟩
  · simp only [← Rig.usedInstrument?_eq_some_iff]
    constructor
    · rintro ⟨b, hb, hid⟩
      obtain ⟨-, base, hbase, -⟩ := e.head?_view_of_id_eq hb hid
      exact ⟨base, hbase⟩
    · rintro ⟨base, hbase⟩
      exact ⟨_, (e.mem_blocks_view_iff r index).2 (Or.inl ⟨base, hbase, rfl⟩), rfl⟩
  · intro b hb hid
    obtain ⟨hhead, base, hbase, hstage⟩ := e.head?_view_of_id_eq hb hid
    refine ⟨hhead, ?_, base, selectedInstrument base (r.snapshot? index),
      Rig.instrument_of_usedInstrument? hbase, fun _ => Instrument.selectedBy_iff, ?_⟩
    · intro c hc
      rw [e.category_view_iff r index hc]
      constructor
      · intro hcid
        have hfirst := (e.head?_view_of_id_eq hc hcid).1
        exact Option.some.inj (hfirst.symm.trans hhead)
      · rintro rfl
        exact hid
    · rw [hstage]
      exact r.resolveBlock_showsInstrument e.matcher _ _

/-- A snapshot that takes the model away and tunes the strings, beside an older record. -/
def untitledRig : Rig Float :=
  { (Rig.new : Rig Float) with
    instrument := some { Instrument.default with modelId := 18 }
    snapshots :=
      [((Snapshot.ofName "Drop").withInstrumentControllers
        ⟨some 0, some true, some #v[0, 0, 0, 0, 0, -2]⟩).withInstrument ⟨some 50, none, none⟩] }

/-- The stage stays although the snapshot takes the model away. -/
theorem instrument_follows_snapshot_untitled :
    untitledRig.HasPath ∧
      ∃ v b, Engine.standard.resolve untitledRig 0 = .ok v ∧ v.chain.blocks.head? = some b ∧
        b.enabled = true ∧ b.displayName = "Variax" ∧
        b.params.get? "Str 6 (Low E)" = some (.number (Float.ofInt (-2))) := by
  have hpath : untitledRig.HasPath := Or.inl rfl
  obtain ⟨v, hv, hpresent, hstage⟩ :=
    instrument_follows_snapshot Engine.standard hpath 0
  obtain ⟨b, hb, hid⟩ := hpresent.2 ⟨_, rfl, Or.inl (by decide)⟩
  obtain ⟨hhead, -, base, m, hbase, hselected, hshows⟩ := hstage b hb hid
  have hbase' : base = { Instrument.default with modelId := 18 } :=
    (Option.some.inj hbase).symm
  have hm : ⟨0, .jtv, true, #v[0, 0, 0, 0, 0, -2]⟩ = m := by
    refine (hselected _).1 (.controllers rfl (Instrument.takes_iff.2 ?_))
    rw [hbase']
    rfl
  subst hm
  exact ⟨hpath, v, b, hv, hhead, hshows.enabled_eq, hshows.displayName_eq,
    hshows.tuned rfl 5 _ _ rfl rfl⟩

end SignalChain
