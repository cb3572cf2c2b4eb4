import SignalChain.Proofs.Chain.Charges
import SignalChain.Proofs.Chain.Level
import SignalChain.Proofs.Gather

/-!
# Budgets of joined chains

In exact arithmetic a budget is read off the costs of the blocks without regard
to their order: the total is their sum, and an id is charged the sum over all
blocks that have it.  So the budget of two chains put end to end is the sum of
their budgets, whether or not an id occurs more than once.  The look-up of a sum
merges the look-ups of its parts, and all laws of addition are read off that.
No cost is negative and the level rises with the total, so no block that is
appended makes a level better.
-/

namespace SignalChain

namespace Budget

/-! ## Costs by id -/

/-- Add the costs of a list of entries, one by one. -/
def addCosts (t : Table BlockId ℚ) (entries : List (BlockId × ℚ)) : Table BlockId ℚ :=
  entries.foldl (fun t entry => addCost t entry.1 entry.2) t

theorem get?_addCost (t : Table BlockId ℚ) (id other : BlockId) (cost : ℚ) :
    (addCost t id cost).get? other =
      Option.merge (· + ·) (t.get? other) (if other = id then some cost else none) := by
  rw [addCost, Table.get?_insert]
  by_cases hid : other = id
  · subst hid
    rw [if_pos rfl, if_pos rfl]
    cases t.get? other with
    | none => simp
    | some before => rfl
  · rw [if_neg hid, if_neg hid, Option.merge_none_right]

theorem get?_addCosts (t : Table BlockId ℚ) (entries : List (BlockId × ℚ)) (id : BlockId) :
    (addCosts t entries).get? id =
      Option.merge (· + ·) (t.get? id) (Table.gather (· + ·) id entries) :=
  Table.get?_foldl (fun t entry id => get?_addCost t entry.1 id entry.2) t entries id

theorem sum_addCosts (t : Table BlockId ℚ) (entries : List (BlockId × ℚ)) :
    ((addCosts t entries).toList.map (·.2)).sum =
      (t.toList.map (·.2)).sum + (entries.map (·.2)).sum := by
  induction entries generalizing t with
  | nil => exact (add_zero _).symm
  | cons entry entries ih =>
      calc
        ((addCosts t (entry :: entries)).toList.map (·.2)).sum =
            ((addCost t entry.1 entry.2).toList.map (·.2)).sum + (entries.map (·.2)).sum :=
          ih (addCost t entry.1 entry.2)
        _ = (t.toList.map (·.2)).sum + ((entry :: entries).map (·.2)).sum := by
          rw [addCost, Table.sum_insert_add, List.map_cons, List.sum_cons, add_assoc]

/-! ## Budgets of blocks -/

/-- The cost of each block, under its id. -/
def costEntries (costs : CostTable ℚ) (blocks : List (ResolvedBlock ℚ)) : List (BlockId × ℚ) :=
  blocks.map fun b => (b.id, CostTable.costOf costs b.block.model)

theorem perBlock_ofBlocks (costs : CostTable ℚ) (blocks : List (ResolvedBlock ℚ)) :
    (ofBlocks costs blocks).perBlock = addCosts Table.empty (costEntries costs blocks) := by
  rw [addCosts, costEntries, List.foldl_map, ofBlocks]
  exact (List.foldl_hom Budget.perBlock fun _ _ => rfl).symm

theorem ceiling_ofBlocks (costs : CostTable ℚ) (blocks : List (ResolvedBlock ℚ)) :
    (ofBlocks costs blocks).ceiling = platformCeiling :=
  List.foldlRecOn blocks _ (motive := fun b : Budget ℚ => b.ceiling = platformCeiling) rfl
    fun _ h _ _ => h

theorem total_ofBlocks (costs : CostTable ℚ) (blocks : List (ResolvedBlock ℚ)) :
    (ofBlocks costs blocks).total = ((costEntries costs blocks).map (·.2)).sum := by
  rw [(balanced_ofBlocks costs blocks).total_eq, perBlock_ofBlocks, sum_addCosts]
  exact zero_add _

theorem get?_perBlock_ofBlocks (costs : CostTable ℚ) (blocks : List (ResolvedBlock ℚ))
    (id : BlockId) :
    (ofBlocks costs blocks).perBlock.get? id =
      Table.gather (· + ·) id (costEntries costs blocks) := by
  rw [perBlock_ofBlocks, get?_addCosts, Table.get?_empty, Option.merge_none_left]

/-! ## Addition -/

theorem eq_of_get? {a b : Budget ℚ} (htotal : a.total = b.total)
    (hblocks : ∀ id, a.perBlock.get? id = b.perBlock.get? id) (hceiling : a.ceiling = b.ceiling) :
    a = b := by
  obtain ⟨total, perBlock, ceiling⟩ := a
  obtain ⟨total', perBlock', ceiling'⟩ := b
  obtain rfl : perBlock = perBlock' := Table.eq_of_get? hblocks
  cases htotal
  cases hceiling
  rfl

theorem total_add (a b : Budget ℚ) : (a + b).total = a.total + b.total :=
  rfl

theorem ceiling_add (a b : Budget ℚ) : (a + b).ceiling = a.ceiling :=
  rfl

theorem perBlock_add (a b : Budget ℚ) :
    (a + b).perBlock = addCosts a.perBlock b.perBlock.toList :=
  rfl

theorem get?_perBlock_add (a b : Budget ℚ) (id : BlockId) :
    (a + b).perBlock.get? id =
      Option.merge (· + ·) (a.perBlock.get? id) (b.perBlock.get? id) := by
  rw [perBlock_add, get?_addCosts, Table.gather_toList]

protected theorem add_assoc (a b c : Budget ℚ) : a + b + c = a + (b + c) := by
  refine eq_of_get? (add_assoc a.total b.total c.total) (fun id => ?_) rfl
  simp only [get?_perBlock_add]
  exact Std.Associative.assoc _ _ _

protected theorem add_empty (a : Budget ℚ) : a + empty = a :=
  eq_of_get? (add_zero a.total) (fun _ => rfl) rfl

/-- The order of two budgets matters for the ceiling only. -/
theorem withCeiling_add_comm (a b : Budget ℚ) (ceiling : ℚ) :
    (a + b).withCeiling ceiling = (b + a).withCeiling ceiling := by
  refine eq_of_get? (add_comm a.total b.total) (fun id => ?_) rfl
  have hcomm : (a + b).perBlock.get? id = (b + a).perBlock.get? id := by
    rw [get?_perBlock_add, get?_perBlock_add]
    exact Std.Commutative.comm _ _
  exact hcomm

/-- The total is the sum of the charges. -/
def Totals (b : Budget ℚ) : Prop :=
  b.total = (b.perBlock.toList.map (·.2)).sum

theorem Totals.add {a b : Budget ℚ} (ha : a.Totals) (hb : b.Totals) : (a + b).Totals := by
  unfold Totals
  rw [total_add, perBlock_add, sum_addCosts, ← ha, ← hb]

/-! ## Chains -/

/-- The sum of the costs of all blocks that have an id. -/
def costUnder (costs : CostTable ℚ) (blocks : List (ResolvedBlock ℚ)) (id : BlockId) : ℚ :=
  ((blocks.filter fun b => decide (b.id = id)).map fun b =>
    CostTable.costOf costs b.block.model).sum

/-- A budget charges the ids of the blocks, and each of them what its blocks cost together. -/
structure SumsUp (b : Budget ℚ) (costs : CostTable ℚ) (blocks : List (ResolvedBlock ℚ)) :
    Prop where
  totals : b.Totals
  total_eq : b.total = (blocks.map fun block => CostTable.costOf costs block.block.model).sum
  get?_perBlock : ∀ id, b.perBlock.get? id =
    if ∃ block ∈ blocks, block.id = id then some (costUnder costs blocks id) else none

theorem gather_costEntries (costs : CostTable ℚ) (blocks : List (ResolvedBlock ℚ))
    (id : BlockId) :
    Table.gather (· + ·) id (costEntries costs blocks) =
      if ∃ block ∈ blocks, block.id = id then some (costUnder costs blocks id) else none := by
  induction blocks with
  | nil => rfl
  | cons block blocks ih =>
      rw [costEntries, List.map_cons, Table.gather, ← costEntries, ih]
      by_cases hid : block.id = id
      · have hhas : ∃ other ∈ block :: blocks, other.id = id := ⟨block, List.mem_cons_self, hid⟩
        rw [if_pos hid.symm, if_pos hhas]
        by_cases hmem : ∃ other ∈ blocks, other.id = id
        · simp [hmem, costUnder, hid]
        · -- No other block has the id, so the sum is this one cost.
          have hnone : blocks.filter (fun other => decide (other.id = id)) = [] := by
            simpa [List.filter_eq_nil_iff] using hmem
          simp [hmem, costUnder, hid, hnone]
      · rw [if_neg (Ne.symm hid), Option.merge_none_left]
        simp only [List.exists_mem_cons_iff, hid, false_or, costUnder, List.filter_cons,
          decide_false, Bool.false_eq_true, if_false]

theorem sumsUp_ofBlocks (costs : CostTable ℚ) (blocks : List (ResolvedBlock ℚ)) :
    (ofBlocks costs blocks).SumsUp costs blocks where
  totals := (balanced_ofBlocks costs blocks).total_eq
  total_eq := by
    rw [total_ofBlocks, costEntries, List.map_map, Function.comp_def]
  get?_perBlock id := by
    rw [get?_perBlock_ofBlocks, gather_costEntries]

theorem ofBlocks_append (costs : CostTable ℚ) (blocks others : List (ResolvedBlock ℚ)) :
    ofBlocks costs (blocks ++ others) = ofBlocks costs blocks + ofBlocks costs others := by
  have hentries : costEntries costs (blocks ++ others) =
      costEntries costs blocks ++ costEntries costs others :=
    List.map_append
  refine eq_of_get? ?_ (fun id => ?_) ?_
  · rw [total_add, total_ofBlocks, total_ofBlocks, total_ofBlocks, hentries, List.map_append,
      List.sum_append]
  · rw [get?_perBlock_add, get?_perBlock_ofBlocks, get?_perBlock_ofBlocks, get?_perBlock_ofBlocks,
      hentries, Table.gather_append]
  · rw [ceiling_add, ceiling_ofBlocks, ceiling_ofBlocks]

theorem ofBlocks_perm (costs : CostTable ℚ) {blocks others : List (ResolvedBlock ℚ)}
    (h : blocks.Perm others) : ofBlocks costs blocks = ofBlocks costs others := by
  have hentries : (costEntries costs blocks).Perm (costEntries costs others) := h.map _
  refine eq_of_get? ?_ (fun id => ?_) ?_
  · rw [total_ofBlocks, total_ofBlocks, (hentries.map _).sum_eq]
  · rw [get?_perBlock_ofBlocks, get?_perBlock_ofBlocks, Table.gather_perm hentries]
  · rw [ceiling_ofBlocks, ceiling_ofBlocks]

theorem total_le_append (costs : CostTable ℚ) (blocks others : List (ResolvedBlock ℚ)) :
    (ofBlocks costs blocks).total ≤ (ofBlocks costs (blocks ++ others)).total := by
  rw [ofBlocks_append, total_add]
  exact le_add_of_nonneg_right (balanced_ofBlocks costs others).total_nonneg

/--
The budget of two chains put end to end is the sum of their budgets, whether or
not an id is in both or twice in one, and it depends on no order.
-/
theorem budgets_add_up :
    (∀ (costs : CostTable ℚ) (blocks others : List (ResolvedBlock ℚ)),
      ofBlocks costs (blocks ++ others) = ofBlocks costs blocks + ofBlocks costs others) ∧
    (∀ (costs : CostTable ℚ) (blocks : List (ResolvedBlock ℚ)),
      (ofBlocks costs blocks).SumsUp costs blocks) ∧
    (∀ (costs : CostTable ℚ) {blocks others : List (ResolvedBlock ℚ)}, blocks.Perm others →
      ofBlocks costs blocks = ofBlocks costs others) ∧
    (∀ a b c : Budget ℚ, a + b + c = a + (b + c)) ∧
    (∀ a : Budget ℚ, a + empty = a) ∧
    (∀ (a b : Budget ℚ) (ceiling : ℚ),
      (a + b).withCeiling ceiling = (b + a).withCeiling ceiling) ∧
    (∀ a b : Budget ℚ, (a + b).ceiling = a.ceiling) ∧
    (∀ {a b : Budget ℚ}, a.Totals → b.Totals → (a + b).Totals) ∧
    ∀ (costs : CostTable ℚ) (blocks others : List (ResolvedBlock ℚ)),
      (ofBlocks costs blocks).total ≤ (ofBlocks costs (blocks ++ others)).total ∧
      ∀ ceiling : ℚ, ((ofBlocks costs blocks).withCeiling ceiling).level ≤
        ((ofBlocks costs (blocks ++ others)).withCeiling ceiling).level := by
  refine ⟨ofBlocks_append, sumsUp_ofBlocks, ofBlocks_perm, Budget.add_assoc, Budget.add_empty,
    withCeiling_add_comm, ceiling_add, Totals.add, fun costs blocks others => ?_⟩
  have hle := total_le_append costs blocks others
  exact ⟨hle, fun ceiling => BudgetLevel.classify_mono ceiling hle⟩

/-- A reverb of a path, switched on. -/
def reverbAt (key : String) : ResolvedBlock ℚ where
  id := .onPath .path0 key
  block := Block.ofModel "HD2_ReverbPlate"
  enabled := true
  source := .stored
  params := Table.empty
  snapshotControlled := []
  designShift := false
  displayName := "ReverbPlate"
  category := .reverb
  cost := 30.5
  activeIn := []

theorem budgets_add_up_repeated :
    let costs : CostTable ℚ := Table.ofList [("HD2_ReverbPlate", 30.5)]
    let budget := ofBlocks costs [reverbAt "a"] + ofBlocks costs [reverbAt "b", reverbAt "a"]
    [reverbAt "a", reverbAt "b", reverbAt "a"].Perm [reverbAt "b", reverbAt "a", reverbAt "a"] ∧
    ofBlocks costs [reverbAt "b", reverbAt "a", reverbAt "a"] = budget ∧
    budget.Totals ∧ budget.total = 91.5 ∧
    budget.perBlock.get? (.onPath .path0 "a") = some 61 := by
  intro costs budget
  obtain ⟨happend, hsums, hperm, -, -, -, -, htotals, -⟩ := budgets_add_up
  have hswap : [reverbAt "a", reverbAt "b", reverbAt "a"].Perm
      [reverbAt "b", reverbAt "a", reverbAt "a"] := .swap _ _ _
  refine ⟨hswap, (hperm costs hswap).symm.trans (happend costs [_] [_, _]),
    htotals (hsums costs _).totals (hsums costs _).totals, ?_, ?_⟩
  · decide +kernel
  · decide +kernel

end Budget

end SignalChain
