import SignalChain.Proofs.Chain.View

/-!
# What a budget depends on

A budget looks at the ids and the models of a resolved chain and at nothing
else.  The stored blocks have the same models under every snapshot, so they are
charged alike; the instrument takes its model from the selected snapshot, and is
charged by the name of that model.  The budget of a rig is therefore the same
under two indices exactly when the instrument is charged the same.
-/

namespace SignalChain

variable {ν : Type}

/-! ## Charging stages -/

namespace Budget

variable [Amount ν]

/-- Count stages one by one, by the costs of their models. -/
def chargeStages (costs : CostTable ν) (start : Budget ν) (stages : List ChainBlock) :
    Budget ν :=
  stages.foldl (fun b stage => b.charge stage.id (CostTable.costOf costs stage.block.model)) start

theorem ofBlocks_eq_chargeStages (costs : CostTable ν) (blocks : List (ResolvedBlock ν)) :
    ofBlocks costs blocks =
      chargeStages costs empty (blocks.map (fun b => ⟨b.id, b.block⟩)) := by
  rw [ofBlocks, chargeStages, List.foldl_map]

theorem get?_perBlock_charge (b : Budget ν) (id other : BlockId) (cost : ν) :
    (b.charge id cost).perBlock.get? other =
      if other = id then some ((b.perBlock.get? id).getD 0 + cost)
      else b.perBlock.get? other := by
  simp [charge, addCost]

/-- What is charged to an id depends on what was charged to it before, and on no other id. -/
theorem get?_perBlock_chargeStages_congr (costs : CostTable ν) {a b : Budget ν} {id : BlockId}
    (h : a.perBlock.get? id = b.perBlock.get? id) (stages : List ChainBlock) :
    (chargeStages costs a stages).perBlock.get? id =
      (chargeStages costs b stages).perBlock.get? id := by
  induction stages generalizing a b with
  | nil =>
      exact h
  | cons stage stages ih =>
      refine ih ?_
      rw [get?_perBlock_charge, get?_perBlock_charge]
      by_cases hid : id = stage.id
      · subst hid
        simp [h]
      · simp [hid, h]

theorem get?_perBlock_chargeStages_of_not_mem (costs : CostTable ν) (b : Budget ν) {id : BlockId}
    {stages : List ChainBlock} (h : id ∉ stages.map (·.id)) :
    (chargeStages costs b stages).perBlock.get? id = b.perBlock.get? id := by
  induction stages generalizing b with
  | nil =>
      rfl
  | cons stage stages ih =>
      obtain ⟨hne, hrest⟩ := not_or.1 (fun hmem => h (List.mem_cons.2 hmem))
      have hstep : chargeStages costs b (stage :: stages) =
          chargeStages costs
            (b.charge stage.id (CostTable.costOf costs stage.block.model)) stages := rfl
      rw [hstep, ih _ hrest, get?_perBlock_charge, if_neg hne]

/-- The budget of an instrument alone, by what it is charged with. -/
def ofInstrument : Option ν → Budget ν
  | none => empty
  | some cost => ⟨cost, Table.empty.insert .instrument cost, platformCeiling⟩

theorem charge_instrument_empty (cost : ν) :
    (empty : Budget ν).charge .instrument cost = ofInstrument (some (0 + cost)) :=
  rfl

theorem get?_perBlock_ofInstrument (charge? : Option ν) :
    (ofInstrument charge?).perBlock.get? .instrument = charge? := by
  cases charge? with
  | none =>
      rfl
  | some cost =>
      simp [ofInstrument]

theorem get?_perBlock_ofInstrument_onPath (charge? : Option ν) (path : DspPath) (key : String) :
    (ofInstrument charge?).perBlock.get? (.onPath path key) = none := by
  cases charge? with
  | none =>
      rfl
  | some cost =>
      simp [ofInstrument]

end Budget

/-! ## The charge of the instrument -/

@[simp] theorem Instrument.model_toChainBlock (i : Instrument) :
    i.toChainBlock.block.model = InstrumentModel.nameOf i.family i.modelId :=
  rfl

@[simp] theorem family_selectedInstrument (base : Instrument) (snapshot : Option Snapshot) :
    (selectedInstrument base snapshot).family = base.family := by
  unfold selectedInstrument
  split
  · rfl
  · split
    · rfl
    · split <;> rfl
    · rfl

namespace Rig

/-- The name of the model that an instrument has under the snapshot of an index. -/
def selectedModelName (r : Rig ν) (base : Instrument) (index : Nat) : String :=
  InstrumentModel.nameOf base.family (selectedInstrument base (r.snapshot? index)).modelId

theorem model_selectedInstrument (r : Rig ν) (base : Instrument) (index : Nat) :
    (selectedInstrument base (r.snapshot? index)).toChainBlock.block.model =
      r.selectedModelName base index := by
  rw [Instrument.model_toChainBlock, family_selectedInstrument]
  rfl

variable [Amount ν]

/-- What the instrument is charged with under the snapshot of an index, if it is in use. -/
def instrumentCharge? (r : Rig ν) (index : Nat) : Option ν :=
  r.usedInstrument?.map (fun base =>
    0 + CostTable.costOf r.costs (r.selectedModelName base index))

end Rig

namespace Engine

variable [Amount ν]

/-- The budget of a view: the instrument's charge first, and then the stored blocks. -/
theorem budget_view (e : Engine ν) (r : Rig ν) (index : Nat) :
    (e.view r index).budget =
      (Budget.chargeStages r.costs (Budget.ofInstrument (r.instrumentCharge? index))
        r.blockStages).withCeiling e.ceiling := by
  have hbudget : (e.view r index).budget =
      (Budget.ofBlocks r.costs (e.view r index).chain.blocks).withCeiling e.ceiling := rfl
  rw [hbudget, e.chain_view, Rig.blocks_resolveChain_stages, Budget.ofBlocks_eq_chargeStages,
    List.map_append, List.map_map, List.map_map]
  have hplaced : (fun b : ResolvedBlock ν => (⟨b.id, b.block⟩ : ChainBlock)) ∘
      r.resolveBlock e.matcher (r.snapshot? index) = id := rfl
  rw [hplaced, List.map_id, Rig.instrumentCharge?]
  cases r.usedInstrument? with
  | none =>
      rfl
  | some base =>
      let stage := (selectedInstrument base (r.snapshot? index)).toChainBlock
      change (Budget.chargeStages r.costs
        (Budget.empty.charge .instrument (CostTable.costOf r.costs stage.block.model))
          r.blockStages).withCeiling e.ceiling = _
      rw [Budget.charge_instrument_empty, r.model_selectedInstrument base index]
      rfl

theorem level_view (e : Engine ν) (r : Rig ν) (index : Nat) :
    (e.view r index).level = (e.view r index).budget.level :=
  rfl

theorem instrument_charge_view (e : Engine ν) (r : Rig ν) (index : Nat) :
    (e.view r index).budget.perBlock.get? .instrument = r.instrumentCharge? index := by
  have hkept := Budget.get?_perBlock_chargeStages_of_not_mem r.costs
    (Budget.ofInstrument (r.instrumentCharge? index)) r.instrument_not_mem_ids_blockStages
  rw [e.budget_view]
  exact hkept.trans (Budget.get?_perBlock_ofInstrument _)

theorem block_charge_view (e : Engine ν) (r : Rig ν) (i j : Nat) (path : DspPath)
    (key : String) :
    (e.view r i).budget.perBlock.get? (.onPath path key) =
      (e.view r j).budget.perBlock.get? (.onPath path key) := by
  rw [e.budget_view, e.budget_view]
  refine Budget.get?_perBlock_chargeStages_congr r.costs ?_ r.blockStages
  rw [Budget.get?_perBlock_ofInstrument_onPath, Budget.get?_perBlock_ofInstrument_onPath]

end Engine

/-! ## Two indices -/

/--
The budgets of a rig under two indices agree in the total, in what each stage is
charged and in the level exactly when the instrument is charged the same under
both.  On the blocks of the paths they always agree.
-/
theorem budget_eq_iff_instrumentCharge?_eq [Amount ν] (e : Engine ν) (r : Rig ν)
    (h : r.HasPath) (i j : Nat) :
    ∃ v w, e.resolve r i = .ok v ∧ e.resolve r j = .ok w ∧
      ((v.budget.total = w.budget.total ∧ v.budget.perBlock = w.budget.perBlock ∧
          v.level = w.level) ↔
        r.instrumentCharge? i = r.instrumentCharge? j) ∧
      ∀ path key,
        v.budget.perBlock.get? (.onPath path key) = w.budget.perBlock.get? (.onPath path key) := by
  refine ⟨e.view r i, e.view r j, e.resolve_of_hasPath h i, e.resolve_of_hasPath h j, ?_,
    e.block_charge_view r i j⟩
  constructor
  · rintro ⟨-, hperBlock, -⟩
    rw [← e.instrument_charge_view r i, ← e.instrument_charge_view r j, hperBlock]
  · intro hcharge
    have hbudget : (e.view r i).budget = (e.view r j).budget := by
      rw [e.budget_view, e.budget_view, hcharge]
    rw [e.level_view, e.level_view, hbudget]
    exact ⟨rfl, rfl, rfl⟩

/-- A costly model that the first snapshot replaces by one without a cost. -/
def replacedModelRig : Rig Float :=
  { (Rig.empty : Rig Float) with
    path0 := some Table.empty
    instrument := some { Instrument.default with modelId := 18 }
    costs := Table.ofList [("Lester 3", 95.0)]
    snapshots :=
      [(Snapshot.ofName "Acoustic").withInstrumentControllers ⟨some 50, none, none⟩] }

theorem budget_eq_iff_instrumentCharge?_eq_replacedModel :
    replacedModelRig.HasPath ∧
      ∃ v w, Engine.standard.resolve replacedModelRig 1 = .ok v ∧
        Engine.standard.resolve replacedModelRig 2 = .ok w ∧
        v.budget.total = w.budget.total ∧ v.budget.perBlock = w.budget.perBlock ∧
        v.level = w.level := by
  have hpath : replacedModelRig.HasPath := Or.inl rfl
  obtain ⟨v, w, hv, hw, hiff, -⟩ :=
    budget_eq_iff_instrumentCharge?_eq Engine.standard replacedModelRig hpath 1 2
  exact ⟨hpath, v, w, hv, hw, hiff.2 rfl⟩

/-- The budget is not the same under all indices. -/
theorem budget_differs_by_snapshot :
    ∃ v w, Engine.standard.resolve replacedModelRig 0 = .ok v ∧
      Engine.standard.resolve replacedModelRig 1 = .ok w ∧
      v.budget.total ≠ w.budget.total ∧ v.budget.perBlock ≠ w.budget.perBlock ∧
      v.level ≠ w.level := by
  have hpath : replacedModelRig.HasPath := Or.inl rfl
  refine ⟨_, _, Engine.standard.resolve_of_hasPath hpath 0,
    Engine.standard.resolve_of_hasPath hpath 1, ?_, ?_, ?_⟩
  · rw [Engine.budget_view, Engine.budget_view]
    decide +kernel
  · decide +kernel
  · decide +kernel

end SignalChain
