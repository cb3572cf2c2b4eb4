import Mathlib.Algebra.BigOperators.Ring.List
import Mathlib.Algebra.Order.BigOperators.Group.List
import Mathlib.Algebra.Order.Field.Basic
import SignalChain.Proofs.Chain.Budget
import SignalChain.Proofs.Rig.Amount

/-!
# A view and its budget

The cost of a stage is looked up twice: once for the state that a view shows,
and once for the budget.  Since no id occurs twice in a chain, the budget charges
each stage once, with the cost that the view shows.  In exact arithmetic the
total of a budget is the sum of its charges: counting one more stage keeps this,
whether or not its id was charged before.  The shares of the stages then make up
the whole.
-/

namespace SignalChain

/-! ## Adding to an entry of a table -/

namespace Table

variable {κ α : Type} [Ord κ]

theorem lookupEntry_eq_none {key : κ} {entries : List (κ × α)}
    (h : ∀ entry ∈ entries, compare key entry.1 = .lt) : lookupEntry key entries = none := by
  induction entries with
  | nil => rfl
  | cons head rest ih =>
      obtain ⟨hhead, hrest⟩ := List.forall_mem_cons.1 h
      rw [lookupEntry, if_neg (by rw [hhead]; decide), ih hrest]

variable [Std.TransOrd κ]

theorem sum_insertEntry_add [AddCommMonoid α] (key : κ) (amount : α) {entries : List (κ × α)}
    (h : entries.Pairwise (fun a b => compare a.1 b.1 = .lt)) :
    ((insertEntry key ((lookupEntry key entries).getD 0 + amount) entries).map (·.2)).sum =
      (entries.map (·.2)).sum + amount := by
  induction entries with
  | nil => simp [lookupEntry, insertEntry]
  | cons head rest ih =>
      obtain ⟨k, v⟩ := head
      obtain ⟨hhead, hrest⟩ := List.pairwise_cons.1 h
      cases hkey : compare key k with
      | lt =>
          -- The key stands before all the others, so nothing was stored under it.
          have hnone : lookupEntry key ((k, v) :: rest) = none := by
            refine lookupEntry_eq_none ?_
            rintro entry (_ | ⟨_, hmem⟩)
            · exact hkey
            · exact Std.TransCmp.lt_trans hkey (hhead entry hmem)
          simp only [hnone, insertEntry, hkey, List.map_cons, List.sum_cons, Option.getD_none,
            zero_add]
          rw [add_comm]
      | eq =>
          simp only [lookupEntry, insertEntry, hkey, if_true, List.map_cons, List.sum_cons,
            Option.getD_some]
          rw [add_right_comm]
      | gt =>
          have hskip : lookupEntry key ((k, v) :: rest) = lookupEntry key rest := by
            rw [lookupEntry, if_neg (by rw [hkey]; decide)]
          simp only [hskip, insertEntry, hkey, List.map_cons, List.sum_cons, ih hrest]
          rw [add_assoc]

/-- Adding an amount to an entry, which begins at zero, adds it to the sum of all entries. -/
theorem sum_insert_add [Std.LawfulEqOrd κ] [AddCommMonoid α] (t : Table κ α) (key : κ)
    (amount : α) :
    ((t.insert key ((t.get? key).getD 0 + amount)).toList.map (·.2)).sum =
      (t.toList.map (·.2)).sum + amount :=
  sum_insertEntry_add key amount t.ordered

end Table

namespace Budget

/-! ## Each stage once -/

section Charges

variable {ν : Type} [Amount ν]

theorem perBlock_chargeStages (costs : CostTable ν) (b : Budget ν) {stages : List ChainBlock}
    (hids : (stages.map (·.id)).Nodup)
    (hnew : ∀ stage ∈ stages, b.perBlock.get? stage.id = none) :
    (chargeStages costs b stages).perBlock =
      b.perBlock.insertMany
        (stages.map fun stage => (stage.id, 0 + CostTable.costOf costs stage.block.model)) := by
  induction stages generalizing b with
  | nil => rfl
  | cons stage stages ih =>
      obtain ⟨hnotMem, hrest⟩ := List.nodup_cons.1 hids
      let cost := CostTable.costOf costs stage.block.model
      have hfirst : (b.charge stage.id cost).perBlock =
          b.perBlock.insert stage.id (0 + cost) := by
        rw [charge, addCost, hnew stage List.mem_cons_self, Option.getD_none]
      have hstillNew : ∀ other ∈ stages, (b.charge stage.id cost).perBlock.get? other.id = none := by
        intro other hother
        have hne : other.id ≠ stage.id := by
          intro heq
          exact hnotMem (List.mem_map.2 ⟨other, hother, heq⟩)
        rw [get?_perBlock_charge, if_neg hne, hnew other (List.mem_cons_of_mem _ hother)]
      have hstep := ih (b.charge stage.id cost) hrest hstillNew
      rw [hfirst] at hstep
      exact hstep

theorem toList_perBlock_ofBlocks (costs : CostTable ν) {blocks : List (ResolvedBlock ν)}
    (hids : (blocks.map (·.id)).Nodup) :
    (ofBlocks costs blocks).perBlock.toList.Perm
      (blocks.map fun b => (b.id, 0 + CostTable.costOf costs b.block.model)) := by
  have hstages : ((blocks.map fun b => (⟨b.id, b.block⟩ : ChainBlock)).map (·.id)).Nodup := by
    rwa [List.map_map]
  rw [ofBlocks_eq_chargeStages,
    perBlock_chargeStages costs empty hstages (fun _ _ => Table.get?_empty _), List.map_map]
  refine Table.toList_insertMany_perm Table.empty ?_
  rw [Table.toList_empty, List.nil_append, List.map_map]
  exact hids

end Charges

/-! ## Exact totals -/

/-- The total is the sum of the charges, of which none is negative. -/
structure Balanced (b : Budget ℚ) : Prop where
  total_eq : b.total = (b.perBlock.toList.map (·.2)).sum
  charge_nonneg : ∀ entry ∈ b.perBlock.toList, 0 ≤ entry.2

theorem balanced_empty : (empty : Budget ℚ).Balanced :=
  ⟨rfl, fun _ h => absurd h List.not_mem_nil⟩

theorem Balanced.charge {b : Budget ℚ} (h : b.Balanced) (id : BlockId) {cost : ℚ}
    (hcost : 0 ≤ cost) : (b.charge id cost).Balanced where
  total_eq := by
    have hsum := b.perBlock.sum_insert_add id cost
    rw [← h.total_eq] at hsum
    exact hsum.symm
  charge_nonneg := by
    intro entry hentry
    rcases Table.mem_insertEntry hentry with rfl | hmem
    · -- What was there before is a charge already, or the zero that a charge begins at.
      refine add_nonneg ?_ hcost
      cases hbefore : b.perBlock.get? id with
      | none => exact le_refl 0
      | some before => exact h.charge_nonneg _ (Table.mem_toList_iff.2 hbefore)
    · exact h.charge_nonneg entry hmem

theorem Balanced.chargeStages {b : Budget ℚ} (h : b.Balanced) (costs : CostTable ℚ)
    (stages : List ChainBlock) : (chargeStages costs b stages).Balanced := by
  induction stages generalizing b with
  | nil => exact h
  | cons stage stages ih =>
      exact ih (h.charge stage.id (CostTable.costOf_nonneg costs stage.block.model))

theorem balanced_ofBlocks (costs : CostTable ℚ) (blocks : List (ResolvedBlock ℚ)) :
    (ofBlocks costs blocks).Balanced := by
  rw [ofBlocks_eq_chargeStages]
  exact balanced_empty.chargeStages costs _

/-! ## Shares -/

namespace Balanced

variable {b : Budget ℚ} (h : b.Balanced)
include h

theorem withCeiling (ceiling : ℚ) : (b.withCeiling ceiling).Balanced :=
  ⟨h.total_eq, h.charge_nonneg⟩

theorem total_nonneg : 0 ≤ b.total := by
  rw [h.total_eq]
  refine List.sum_nonneg ?_
  intro cost hcost
  obtain ⟨entry, hentry, rfl⟩ := List.mem_map.1 hcost
  exact h.charge_nonneg entry hentry

theorem charge_le_total {id : BlockId} {cost : ℚ} (hget : b.perBlock.get? id = some cost) :
    cost ≤ b.total := by
  have hmem : cost ∈ b.perBlock.toList.map (·.2) :=
    List.mem_map.2 ⟨(id, cost), Table.mem_toList_iff.2 hget, rfl⟩
  rw [h.total_eq]
  refine List.single_le_sum ?_ cost hmem
  intro other hother
  obtain ⟨entry, hentry, rfl⟩ := List.mem_map.1 hother
  exact h.charge_nonneg entry hentry

omit h in
theorem share_of_get? (hpos : 0 < b.total) {id : BlockId} {cost : ℚ}
    (hget : b.perBlock.get? id = some cost) : b.share id = cost / b.total := by
  have hless : Amount.isLess 0 b.total = true := decide_eq_true hpos
  simp only [share, hget, hless, if_true]

omit h in
theorem share_of_not_pos (hpos : ¬ 0 < b.total) (id : BlockId) : b.share id = 0 := by
  have hless : Amount.isLess 0 b.total = false := decide_eq_false hpos
  unfold share
  cases b.perBlock.get? id with
  | none => rfl
  | some cost => simp only [hless, Bool.false_eq_true, if_false]

theorem share_mem (id : BlockId) : 0 ≤ b.share id ∧ b.share id ≤ 1 := by
  by_cases hpos : 0 < b.total
  · cases hget : b.perBlock.get? id with
    | none =>
        have hshare : b.share id = 0 := by
          simp only [share, hget]
        rw [hshare]
        exact ⟨le_refl 0, zero_le_one⟩
    | some cost =>
        rw [share_of_get? hpos hget]
        have hcost : 0 ≤ cost := h.charge_nonneg _ (Table.mem_toList_iff.2 hget)
        exact ⟨div_nonneg hcost hpos.le, (div_le_one hpos).2 (h.charge_le_total hget)⟩
  · rw [share_of_not_pos hpos]
    exact ⟨le_refl 0, zero_le_one⟩

theorem sum_shares (hpos : 0 < b.total) : (b.perBlock.keys.map b.share).sum = 1 := by
  have hshares : b.perBlock.keys.map b.share =
      (b.perBlock.toList.map (·.2)).map (· / b.total) := by
    rw [Table.keys, List.map_map, List.map_map]
    refine List.map_congr_left ?_
    rintro ⟨id, cost⟩ hentry
    exact share_of_get? hpos (Table.mem_toList_iff.1 hentry)
  simp only [hshares, div_eq_mul_inv, List.sum_map_mul_right, List.map_id']
  rw [← h.total_eq, mul_inv_cancel₀ hpos.ne']

end Balanced

end Budget

/-! ## Views -/

/--
The budget of a view charges each stage of its chain once, on or off, with the
cost that the stage shows, and that is what its model is counted with.
-/
structure View.ChargesStages {ν : Type} [Amount ν] (v : View ν) (costs : CostTable ν) :
    Prop where
  ids_nodup : (v.chain.blocks.map (·.id)).Nodup
  keys_perm : v.budget.perBlock.keys.Perm (v.chain.blocks.map (·.id))
  cost_counts : ∀ b ∈ v.chain.blocks, costs.Counts b.block.model b.cost
  charge_eq : ∀ b ∈ v.chain.blocks, ∃ charge,
    v.budget.perBlock.get? b.id = some charge ∧ (charge == b.cost) = true

/-- The level of a view is that of its total under the ceiling of its engine. -/
structure View.RatedBy {ν : Type} [Amount ν] (v : View ν) (e : Engine ν) : Prop where
  ceiling_eq : v.budget.ceiling = e.ceiling
  level_eq : v.level = BudgetLevel.classify v.budget.total e.ceiling

/-- In exact arithmetic the costs add up to the total, and the shares to the whole. -/
structure View.AddsUp (v : View ℚ) : Prop where
  total_eq_costs : v.budget.total = (v.chain.blocks.map (·.cost)).sum
  total_eq_charges : v.budget.total = (v.budget.perBlock.toList.map (·.2)).sum
  total_nonneg : 0 ≤ v.budget.total
  share_mem : ∀ b ∈ v.chain.blocks, 0 ≤ v.budget.share b.id ∧ v.budget.share b.id ≤ 1
  sum_shares : 0 < v.budget.total →
    (v.chain.blocks.map (fun b => v.budget.share b.id)).sum = 1
  share_eq_zero : v.budget.total = 0 → ∀ b ∈ v.chain.blocks, v.budget.share b.id = 0

namespace Engine

section Charges

variable {ν : Type} [Amount ν]

theorem cost_of_mem_view (e : Engine ν) (r : Rig ν) (index : Nat) {b : ResolvedBlock ν}
    (hb : b ∈ (e.view r index).chain.blocks) :
    b.cost = CostTable.costOf r.costs b.block.model := by
  obtain ⟨stage, -, rfl⟩ := List.mem_map.1 hb
  rfl

theorem toList_perBlock_view (e : Engine ν) (r : Rig ν) (index : Nat) :
    (e.view r index).budget.perBlock.toList.Perm
      ((e.view r index).chain.blocks.map fun b => (b.id, 0 + b.cost)) := by
  have hcharges := Budget.toList_perBlock_ofBlocks r.costs (e.ids_view_nodup r index)
  have hcosts : ((e.view r index).chain.blocks.map fun b => (b.id, 0 + b.cost)) =
      (e.view r index).chain.blocks.map fun b =>
        (b.id, 0 + CostTable.costOf r.costs b.block.model) := by
    refine List.map_congr_left ?_
    intro b hb
    rw [e.cost_of_mem_view r index hb]
  rw [hcosts]
  exact hcharges

theorem chargesStages_view [LawfulAmount ν] (e : Engine ν) (r : Rig ν) (index : Nat) :
    (e.view r index).ChargesStages r.costs where
  ids_nodup := e.ids_view_nodup r index
  keys_perm := by
    have hkeys := (e.toList_perBlock_view r index).map Prod.fst
    rwa [List.map_map] at hkeys
  cost_counts := by
    intro b hb
    rw [e.cost_of_mem_view r index hb]
    exact r.costs.counts_costOf b.block.model
  charge_eq := by
    intro b hb
    refine ⟨0 + b.cost, ?_, ?_⟩
    · refine Table.mem_toList_iff.1 ((e.toList_perBlock_view r index).mem_iff.2 ?_)
      exact List.mem_map.2 ⟨b, hb, rfl⟩
    · rw [e.cost_of_mem_view r index hb]
      exact LawfulAmount.zero_add_beq (r.costs.isUsable_costOf b.block.model)

theorem ratedBy_view (e : Engine ν) (r : Rig ν) (index : Nat) : (e.view r index).RatedBy e :=
  ⟨rfl, rfl⟩

end Charges

theorem balanced_view (e : Engine ℚ) (r : Rig ℚ) (index : Nat) :
    (e.view r index).budget.Balanced :=
  (Budget.balanced_ofBlocks r.costs (e.view r index).chain.blocks).withCeiling e.ceiling

theorem addsUp_view (e : Engine ℚ) (r : Rig ℚ) (index : Nat) : (e.view r index).AddsUp where
  total_eq_costs := by
    have hcharges := ((e.toList_perBlock_view r index).map Prod.snd).sum_eq
    rw [(e.balanced_view r index).total_eq, hcharges, List.map_map]
    simp only [Function.comp_def, zero_add]
  total_eq_charges := (e.balanced_view r index).total_eq
  total_nonneg := (e.balanced_view r index).total_nonneg
  share_mem b _ := (e.balanced_view r index).share_mem b.id
  sum_shares hpos := by
    have hkeys := (e.chargesStages_view r index).keys_perm.map (e.view r index).budget.share
    rw [List.map_map] at hkeys
    rw [← (e.balanced_view r index).sum_shares hpos]
    exact hkeys.sum_eq.symm
  share_eq_zero hzero b _ := Budget.Balanced.share_of_not_pos hzero.not_gt b.id

end Engine

/--
Every view charges each of its stages once, with the cost that it shows, and
rates the total under the ceiling of its engine.  In exact arithmetic its costs
add up to the total.
-/
theorem budget_agrees_with_view :
    (∀ (e : Engine Float) (r : Rig Float) (index : Nat), r.HasPath →
      ∃ v, e.resolve r index = .ok v ∧ v.ChargesStages r.costs ∧ v.RatedBy e) ∧
    (∀ (e : Engine ℚ) (r : Rig ℚ) (index : Nat), r.HasPath →
      ∃ v, e.resolve r index = .ok v ∧ v.ChargesStages r.costs ∧ v.RatedBy e ∧ v.AddsUp) := by
  constructor
  · intro e r index h
    exact ⟨e.view r index, e.resolve_of_hasPath h index, e.chargesStages_view r index,
      e.ratedBy_view r index⟩
  · intro e r index h
    exact ⟨e.view r index, e.resolve_of_hasPath h index, e.chargesStages_view r index,
      e.ratedBy_view r index, e.addsUp_view r index⟩

/-- Two stages of one model, one of them off, and a third whose cost cannot be counted. -/
def unusableCostRig {ν : Type} [Amount ν] (unusable : ν) : Rig ν :=
  { (Rig.empty : Rig ν) with
    path0 := some (Table.ofList
      [("a", Block.ofModel "HD2_ReverbPlate"),
        ("b", { Block.ofModel "HD2_ReverbPlate" with enabled := false }),
        ("c", Block.ofModel "HD2_DelaySimple")])
    costs := Table.ofList [("HD2_ReverbPlate", 30.5), ("HD2_DelaySimple", unusable)] }

theorem stages_unusableCostRig {ν : Type} [Amount ν] (unusable : ν) :
    (unusableCostRig unusable).stages =
      [⟨.onPath .path0 "a", Block.ofModel "HD2_ReverbPlate"⟩,
        ⟨.onPath .path0 "b", { Block.ofModel "HD2_ReverbPlate" with enabled := false }⟩,
        ⟨.onPath .path0 "c", Block.ofModel "HD2_DelaySimple"⟩] := by
  have hordered :
      [("a", Block.ofModel "HD2_ReverbPlate"),
        ("b", { Block.ofModel "HD2_ReverbPlate" with enabled := false }),
        ("c", Block.ofModel "HD2_DelaySimple")].Pairwise
          (fun a b => Rig.placedBefore a b = true) := by
    decide
  -- The entries are given in their order, so that sorting leaves them as they are.
  have hsorted := List.mergeSort_of_pairwise hordered
  show (List.mergeSort _ Rig.placedBefore).map _ ++ [] = _
  rw [List.append_nil]
  exact congrArg (List.map fun entry => ChainBlock.mk (.onPath .path0 entry.1) entry.2) hsorted

theorem budget_agrees_with_view_unusableCost :
    (unusableCostRig (1.0 / 0.0 : Float)).HasPath ∧ (unusableCostRig (-5 : ℚ)).HasPath ∧
    (∃ v, Engine.standard.resolve (unusableCostRig (1.0 / 0.0 : Float)) 0 = .ok v ∧
      v.ChargesStages (unusableCostRig (1.0 / 0.0)).costs ∧ v.RatedBy Engine.standard ∧
      v.budget.total == 61.0) ∧
    ∃ v, Engine.standard.resolve (unusableCostRig (-5 : ℚ)) 0 = .ok v ∧ v.AddsUp ∧
      v.budget.total = 61 ∧ (v.chain.blocks.map (fun b => v.budget.share b.id)).sum = 1 := by
  have hfloat : (unusableCostRig (1.0 / 0.0 : Float)).HasPath := Or.inl rfl
  have hexact : (unusableCostRig (-5 : ℚ)).HasPath := Or.inl rfl
  obtain ⟨v, hv, hcharges, hrated⟩ := budget_agrees_with_view.1 Engine.standard _ 0 hfloat
  obtain ⟨w, hw, -, -, hsums⟩ := budget_agrees_with_view.2 Engine.standard _ 0 hexact
  have hview : w = Engine.standard.view (unusableCostRig (-5 : ℚ)) 0 :=
    Except.ok.inj (hw.symm.trans (Engine.standard.resolve_of_hasPath hexact 0))
  have htotal : w.budget.total = 61 := by
    rw [hview, Engine.view, stages_unusableCostRig]
    decide +kernel
  refine ⟨hfloat, hexact, ⟨v, hv, hcharges, hrated, ?_⟩, w, hw, hsums, htotal,
    hsums.sum_shares (by rw [htotal]; norm_num)⟩
  have hviewF : v = Engine.standard.view (unusableCostRig (1.0 / 0.0 : Float)) 0 :=
    Except.ok.inj (hv.symm.trans (Engine.standard.resolve_of_hasPath hfloat 0))
  rw [hviewF, Engine.view, stages_unusableCostRig]
  decide +kernel

end SignalChain
