import SignalChain.Chain.Assembly
import SignalChain.Proofs.Rig.Basic
import SignalChain.Proofs.Table
import SignalChain.Proofs.Text.ByteOrder

/-!
# The chain lists each block once, in order

What the chain of a rig is, said of the look-ups of the rig alone: after the
instrument's stage come the stored blocks, each once and as it is stored, the
first path before the second, and on a path by position and then by key.  A rig
has a chain exactly when it has a path, and a missing path is as good as an
empty one.
-/

namespace SignalChain

@[simp] theorem Instrument.id_toChainBlock (i : Instrument) :
    i.toChainBlock.id = .instrument :=
  rfl

/-! ## The order of the stages -/

/--
Whether one block stands before another: on an earlier path, or on the same path
at a smaller position, or at the same position under a key whose bytes come
first.
-/
def ChainBlock.Precedes (a b : ChainBlock) : Prop :=
  match a.id, b.id with
  | .onPath p k, .onPath q l =>
      p.index < q.index ∨
        p = q ∧
          (a.block.position.toInt < b.block.position.toInt ∨
            a.block.position = b.block.position ∧ Text.bytes k < Text.bytes l)
  | _, _ => False

namespace Rig

variable {ν : Type}

/-- Position first and key second, as one comparison. -/
def comparePlaces : String × Block → String × Block → Ordering :=
  compareLex (compareOn (fun entry => entry.2.position)) (compareOn (fun entry => entry.1))

instance : Std.TransCmp comparePlaces :=
  inferInstanceAs (Std.TransCmp (compareLex _ _))

theorem placedBefore_eq_isLE (a b : String × Block) :
    placedBefore a b = (comparePlaces a b).isLE := by
  unfold placedBefore comparePlaces compareLex compareOn
  cases compare a.2.position b.2.position <;> rfl

theorem placedBefore_trans (a b c : String × Block)
    (hab : placedBefore a b = true) (hbc : placedBefore b c = true) :
    placedBefore a c = true := by
  rw [placedBefore_eq_isLE] at hab hbc ⊢
  exact Std.TransCmp.isLE_trans hab hbc

theorem placedBefore_total (a b : String × Block) :
    (placedBefore a b || placedBefore b a) = true := by
  rw [placedBefore_eq_isLE, placedBefore_eq_isLE, Bool.or_eq_true]
  cases h : comparePlaces a b with
  | lt => exact Or.inl rfl
  | eq => exact Or.inl rfl
  | gt =>
      have hlt := Std.OrientedCmp.lt_of_gt h
      exact Or.inr (by rw [hlt]; rfl)

/-- Of two blocks with different keys the sorting puts one strictly first. -/
theorem precedes_of_placedBefore {path : DspPath} {a b : String × Block}
    (h : placedBefore a b = true) (hne : a.1 ≠ b.1) :
    ChainBlock.Precedes ⟨.onPath path a.1, a.2⟩ ⟨.onPath path b.1, b.2⟩ := by
  refine Or.inr ⟨rfl, ?_⟩
  unfold placedBefore at h
  split at h
  · next hlt =>
      have hpos : a.2.position < b.2.position := compareOfLessAndEq_eq_lt.1 hlt
      exact Or.inl (Int32.lt_iff_toInt_lt.1 hpos)
  · next hgt =>
      contradiction
  · next heq =>
      refine Or.inr ⟨Std.LawfulEqOrd.eq_of_compare heq, ?_⟩
      rw [← Text.compare_eq_lt_iff_bytes_lt]
      cases hkey : compare a.1 b.1 with
      | lt => rfl
      | eq => exact absurd (Std.LawfulEqOrd.eq_of_compare hkey) hne
      | gt => simp [hkey] at h

/-! ## The stages of one path -/

theorem mem_pathStages_iff {r : Rig ν} {path : DspPath} {stage : ChainBlock} :
    stage ∈ r.pathStages path ↔
      ∃ key block, r.block? path key = some block ∧ stage = ⟨.onPath path key, block⟩ := by
  unfold pathStages block?
  cases r.path? path with
  | none =>
      simp
  | some blocks =>
      simp only [List.mem_map, List.mem_mergeSort, Option.bind_some]
      constructor
      · rintro ⟨⟨key, block⟩, hmem, rfl⟩
        exact ⟨key, block, Table.mem_toList_iff.1 hmem, rfl⟩
      · rintro ⟨key, block, hget, rfl⟩
        exact ⟨(key, block), Table.mem_toList_iff.2 hget, rfl⟩

theorem mergeSort_keys_ne (blocks : Table String Block) :
    (blocks.toList.mergeSort placedBefore).Pairwise (fun a b => a.1 ≠ b.1) := by
  have hperm := (List.mergeSort_perm blocks.toList placedBefore).map (·.1)
  exact List.pairwise_map.1 (hperm.nodup_iff.2 blocks.keys_nodup)

theorem pathStages_precedes (r : Rig ν) (path : DspPath) :
    (r.pathStages path).Pairwise ChainBlock.Precedes := by
  unfold pathStages
  cases r.path? path with
  | none =>
      exact List.Pairwise.nil
  | some blocks =>
      have hkeys := mergeSort_keys_ne blocks
      have hsorted := List.pairwise_mergeSort placedBefore_trans placedBefore_total blocks.toList
      refine List.pairwise_map.2 ((hsorted.and hkeys).imp ?_)
      intro a b hab
      exact precedes_of_placedBefore hab.1 hab.2

theorem pathStages_ids_nodup (r : Rig ν) (path : DspPath) :
    ((r.pathStages path).map (·.id)).Nodup := by
  unfold pathStages
  cases r.path? path with
  | none =>
      exact List.nodup_nil
  | some blocks =>
      rw [List.map_map]
      refine List.pairwise_map.2 ((mergeSort_keys_ne blocks).imp ?_)
      intro a b hne heq
      exact hne (BlockId.onPath.inj heq).2

theorem length_pathStages (r : Rig ν) (path : DspPath) :
    (r.pathStages path).length = ((r.path? path).getD Table.empty).toList.length := by
  unfold pathStages
  cases r.path? path <;> simp

/-! ## The stages of both paths -/

/-- The stages that are not the instrument's. -/
def blockStages (r : Rig ν) : List ChainBlock :=
  DspPath.all.flatMap r.pathStages

theorem blockStages_eq (r : Rig ν) :
    r.blockStages = r.pathStages .path0 ++ r.pathStages .path1 := by
  simp [blockStages, DspPath.all]

/-- What it means that a list of stages holds the blocks of a rig. -/
structure HoldsBlocks (r : Rig ν) (placed : List ChainBlock) : Prop where
  mem_iff : ∀ stage, stage ∈ placed ↔
    ∃ path key block, r.block? path key = some block ∧ stage = ⟨.onPath path key, block⟩
  ids_nodup : (placed.map (·.id)).Nodup
  ordered : placed.Pairwise ChainBlock.Precedes

theorem mem_blockStages_iff {r : Rig ν} {stage : ChainBlock} :
    stage ∈ r.blockStages ↔
      ∃ path key block, r.block? path key = some block ∧ stage = ⟨.onPath path key, block⟩ := by
  rw [blockStages, List.mem_flatMap]
  constructor
  · rintro ⟨path, -, hmem⟩
    exact ⟨path, mem_pathStages_iff.1 hmem⟩
  · rintro ⟨path, hstage⟩
    exact ⟨path, by cases path <;> simp [DspPath.all], mem_pathStages_iff.2 hstage⟩

theorem blockStages_ids_nodup (r : Rig ν) : (r.blockStages.map (·.id)).Nodup := by
  rw [blockStages_eq, List.map_append]
  refine List.nodup_append.2 ⟨r.pathStages_ids_nodup _, r.pathStages_ids_nodup _, ?_⟩
  intro first hfirst second hsecond hid
  obtain ⟨a, ha, rfl⟩ := List.mem_map.1 hfirst
  obtain ⟨b, hb, rfl⟩ := List.mem_map.1 hsecond
  obtain ⟨k, x, -, rfl⟩ := mem_pathStages_iff.1 ha
  obtain ⟨l, y, -, rfl⟩ := mem_pathStages_iff.1 hb
  simp at hid

/-- The id of the instrument is none of the stored blocks' ids. -/
theorem instrument_not_mem_ids_blockStages (r : Rig ν) :
    BlockId.instrument ∉ r.blockStages.map (·.id) := by
  intro hmem
  obtain ⟨stage, hstage, hid⟩ := List.mem_map.1 hmem
  obtain ⟨path, key, block, -, rfl⟩ := mem_blockStages_iff.1 hstage
  cases hid

theorem blockStages_precedes (r : Rig ν) : r.blockStages.Pairwise ChainBlock.Precedes := by
  rw [blockStages_eq]
  refine List.pairwise_append.2 ⟨r.pathStages_precedes _, r.pathStages_precedes _, ?_⟩
  intro a ha b hb
  obtain ⟨k, x, -, rfl⟩ := mem_pathStages_iff.1 ha
  obtain ⟨l, y, -, rfl⟩ := mem_pathStages_iff.1 hb
  exact Or.inl Nat.zero_lt_one

theorem blockStages_holdsBlocks (r : Rig ν) : r.HoldsBlocks r.blockStages where
  mem_iff _ := mem_blockStages_iff
  ids_nodup := r.blockStages_ids_nodup
  ordered := r.blockStages_precedes

theorem length_blockStages (r : Rig ν) : r.blockStages.length = r.blockCount := by
  rw [blockStages_eq, List.length_append, length_pathStages, length_pathStages]
  simp [blockCount, DspPath.all]

/-! ## The instrument's stage -/

/-- The instrument, if it is in use. -/
def usedInstrument? (r : Rig ν) : Option Instrument :=
  r.instrument.filter r.instrumentInUse

theorem instrument_of_usedInstrument? {r : Rig ν} {base : Instrument}
    (h : r.usedInstrument? = some base) : r.instrument = some base :=
  (Option.filter_eq_some_iff.1 h).1

theorem instrumentStage_eq (r : Rig ν) :
    r.instrumentStage = r.usedInstrument?.toList.map Instrument.toChainBlock := by
  unfold instrumentStage usedInstrument?
  cases r.instrument with
  | none =>
      rfl
  | some base =>
      by_cases h : r.instrumentInUse base <;> simp [Option.filter, h]

theorem stages_eq (r : Rig ν) :
    r.stages = r.usedInstrument?.toList.map Instrument.toChainBlock ++ r.blockStages := by
  rw [← instrumentStage_eq]
  rfl

/-! ## The chain -/

/--
What it means that a list of stages is the chain of a rig: the instrument's
stage comes first if the instrument is in use, and the blocks of the rig follow.
-/
structure IsChain (r : Rig ν) (chain : List ChainBlock) : Prop where
  split : ∃ placed, r.HoldsBlocks placed ∧
    chain = r.usedInstrument?.toList.map Instrument.toChainBlock ++ placed
  ids_nodup : (chain.map (·.id)).Nodup
  length_eq : chain.length = r.blockCount + if r.usedInstrument?.isSome then 1 else 0

theorem stages_ids_nodup (r : Rig ν) : (r.stages.map (·.id)).Nodup := by
  rw [stages_eq, List.map_append]
  cases r.usedInstrument? with
  | none =>
      exact r.blockStages_ids_nodup
  | some base =>
      exact List.nodup_cons.2 ⟨r.instrument_not_mem_ids_blockStages, r.blockStages_ids_nodup⟩

theorem onPath_mem_ids_iff (r : Rig ν) (path : DspPath) (key : String) :
    .onPath path key ∈ r.stages.map (·.id) ↔ (r.block? path key).isSome := by
  rw [stages_eq, List.map_append, List.mem_append, Option.isSome_iff_exists]
  constructor
  · rintro (hlead | hplaced)
    · cases h : r.usedInstrument? <;> simp [h] at hlead
    · obtain ⟨stage, hstage, hid⟩ := List.mem_map.1 hplaced
      obtain ⟨p, k, block, hget, rfl⟩ := mem_blockStages_iff.1 hstage
      obtain ⟨rfl, rfl⟩ := BlockId.onPath.inj hid
      exact ⟨block, hget⟩
  · rintro ⟨block, hget⟩
    exact Or.inr (List.mem_map.2
      ⟨⟨.onPath path key, block⟩, mem_blockStages_iff.2 ⟨path, key, block, hget, rfl⟩, rfl⟩)

theorem stages_isChain (r : Rig ν) : r.IsChain r.stages where
  split := ⟨r.blockStages, r.blockStages_holdsBlocks, r.stages_eq⟩
  ids_nodup := r.stages_ids_nodup
  length_eq := by
    rw [stages_eq, List.length_append, length_blockStages]
    cases r.usedInstrument? <;> simp [Nat.add_comm]

/-! ## Rigs with a path -/

theorem checkStructure_of_hasPath {r : Rig ν} (h : r.HasPath) : r.checkStructure = .ok () := by
  unfold checkStructure
  rcases h with h | h <;> simp [Option.isNone_eq_false_iff.2 h]

theorem checkStructure_of_not_hasPath {r : Rig ν} (h : ¬ r.HasPath) :
    r.checkStructure = .error .noPath := by
  obtain ⟨h0, h1⟩ := not_hasPath_iff.1 h
  simp [checkStructure, h0, h1]

theorem assemble_of_hasPath {r : Rig ν} (h : r.HasPath) : r.assemble = .ok r.stages := by
  unfold assemble
  rw [checkStructure_of_hasPath h]
  rfl

theorem assemble_of_not_hasPath {r : Rig ν} (h : ¬ r.HasPath) :
    r.assemble = .error .noPath := by
  unfold assemble
  rw [checkStructure_of_not_hasPath h]
  rfl

/-! ## A missing path -/

theorem pathStages_withPath_empty {r : Rig ν} {path : DspPath} (h : r.path? path = none)
    (other : DspPath) : (r.withPath path Table.empty).pathStages other = r.pathStages other := by
  cases path <;> cases other <;> simp_all [pathStages, path?, withPath]

theorem stages_withPath_empty {r : Rig ν} {path : DspPath} (h : r.path? path = none) :
    (r.withPath path Table.empty).stages = r.stages := by
  have hpaths : (r.withPath path Table.empty).pathStages = r.pathStages :=
    funext (pathStages_withPath_empty h)
  simp [stages, hpaths, instrumentStage, instrumentInUse]

end Rig

end SignalChain
