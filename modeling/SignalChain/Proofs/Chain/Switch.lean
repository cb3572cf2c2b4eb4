import SignalChain.Proofs.Chain.View

/-!
# What switches a block on

The switch of a block is decided by the first that has a say: the device's
switches of the selected snapshot, the references of its hint, and the flag that
is stored with the block.  The device's switches speak by exact path and key, and
once a snapshot has any, its hint is not asked.
-/

namespace SignalChain

variable {ν : Type}

theorem Hint.activates_iff {hint : Hint} {matcher : Matcher} {names : List String} :
    hint.activates matcher names = true ↔
      ∃ reference ∈ hint.activeBlocks, ∃ name ∈ names, matcher reference name = true := by
  simp [activates, Matcher.meansAny]

/-! ## One block -/

namespace ResolvedBlock

/-- The block is on as it is stored. -/
def KeepsStored (b : ResolvedBlock ν) : Prop :=
  b.enabled = b.block.enabled ∧ b.source = .stored

/-- How the switch of the block of a path and a key comes about under a snapshot. -/
structure FollowsPriority (b : ResolvedBlock ν) (matcher : Matcher)
    (snapshot : Option Snapshot) (path : DspPath) (key : String) : Prop where
  unselected : snapshot = none → b.KeepsStored
  listed : ∀ s switches on, snapshot = some s → s.blocks = some switches →
    switches.get? path key = some on → b.enabled = on ∧ b.source = .technical
  unlisted : ∀ s switches, snapshot = some s → s.blocks = some switches →
    switches.get? path key = none → b.KeepsStored
  hinted : ∀ s hint, snapshot = some s → s.blocks = none → s.hint = some hint →
    hint.activeBlocks ≠ [] →
      b.source = .hint ∧
        (b.enabled = true ↔ ∃ reference ∈ hint.activeBlocks,
          matcher reference (DisplayName.ofModel b.block.model) = true ∨
            matcher reference b.block.model = true)
  unhinted : ∀ s, snapshot = some s → s.blocks = none →
    (∀ hint, s.hint = some hint → hint.activeBlocks = []) → b.KeepsStored

end ResolvedBlock

theorem Rig.resolveBlock_followsPriority [Amount ν] (r : Rig ν) (matcher : Matcher)
    (snapshot : Option Snapshot) (path : DspPath) (key : String) (block : Block) :
    (r.resolveBlock matcher snapshot ⟨.onPath path key, block⟩).FollowsPriority
      matcher snapshot path key where
  unselected := by
    rintro rfl
    exact ⟨rfl, rfl⟩
  listed := by
    rintro s switches on rfl hblocks hget
    simp [resolveBlock, ChainBlock.selectedState, Snapshot.blockEnabled?, hblocks, hget]
  unlisted := by
    rintro s switches rfl hblocks hget
    simp [ResolvedBlock.KeepsStored, resolveBlock, ChainBlock.selectedState,
      Snapshot.blockEnabled?, hblocks, hget]
  hinted := by
    rintro s hint rfl hblocks hhint hne
    simp [resolveBlock, ChainBlock.selectedState, hblocks, hhint, hne, Hint.activates_iff,
      ChainBlock.candidateNames, ChainBlock.displayName, BlockId.isInstrument]
  unhinted := by
    rintro s rfl hblocks hempty
    cases hhint : s.hint with
    | none =>
        simp [ResolvedBlock.KeepsStored, resolveBlock, ChainBlock.selectedState, hblocks, hhint]
    | some hint =>
        simp [ResolvedBlock.KeepsStored, resolveBlock, ChainBlock.selectedState, hblocks, hhint,
          hempty hint hhint]

/-! ## The other path -/

/-- Replace the switches of one path in a snapshot that has switches. -/
def Snapshot.replaceSwitches (s : Snapshot) (path : DspPath) (entries : Table String Bool) :
    Snapshot :=
  { s with blocks := s.blocks.map (fun switches => switches.setPath path entries) }

theorem Snapshot.blockEnabled?_replaceSwitches (s : Snapshot) {path other : DspPath}
    (h : path ≠ other) (entries : Table String Bool) (key : String) :
    (s.replaceSwitches other entries).blockEnabled? path key = s.blockEnabled? path key := by
  unfold replaceSwitches blockEnabled?
  cases s.blocks with
  | none =>
      rfl
  | some switches =>
      simp [PerPath.get?, h]

theorem ChainBlock.selectedState_replaceSwitches {path other : DspPath} (h : path ≠ other)
    (entries : Table String Bool) (key : String) (block : Block) (matcher : Matcher)
    (snapshot : Option Snapshot) :
    selectedState ⟨.onPath path key, block⟩ matcher
        (snapshot.map (fun s => s.replaceSwitches other entries)) =
      selectedState ⟨.onPath path key, block⟩ matcher snapshot := by
  cases snapshot with
  | none =>
      rfl
  | some s =>
      have hsome : (s.replaceSwitches other entries).blocks.isSome = s.blocks.isSome := by
        simp [Snapshot.replaceSwitches]
      simp only [selectedState, Option.map_some, hsome,
        s.blockEnabled?_replaceSwitches h entries key]
      rfl

/-! ## Whole rigs -/

variable [Amount ν]

theorem Rig.resolveBlock_modifySnapshot_source (r : Rig ν) (matcher : Matcher) (index : Nat)
    {path other : DspPath} (h : path ≠ other) (entries : Table String Bool) (key : String)
    (block : Block) :
    let changed := r.modifySnapshot index (fun s => s.replaceSwitches other entries)
    let before := r.resolveBlock matcher (r.snapshot? index) ⟨.onPath path key, block⟩
    let after := changed.resolveBlock matcher (changed.snapshot? index) ⟨.onPath path key, block⟩
    after.enabled = before.enabled ∧ after.source = before.source := by
  intro changed before after
  have hstate := ChainBlock.selectedState_replaceSwitches h entries key block matcher
    (r.snapshot? index)
  rw [← r.snapshot?_modifySnapshot index] at hstate
  exact ⟨congrArg Prod.fst hstate, congrArg Prod.snd hstate⟩

/--
The switches of a whole rig.  Each stored block is switched by priority, and no
switch of the other path has a say in it.  All indices without a snapshot give
one chain: the assembled one with its stored parameters and no sign of a change.
-/
theorem enabled_by_priority (e : Engine ν) (r : Rig ν) (h : r.HasPath) :
    (∀ index path key block, r.block? path key = some block →
      ∃ view b, e.resolve r index = .ok view ∧
        view.chain.get? (.onPath path key) = some b ∧ b.block = block ∧
        b.FollowsPriority e.matcher (r.snapshot? index) path key ∧
        ∀ other entries, path ≠ other →
          ∃ view' b',
            e.resolve (r.modifySnapshot index (fun s => s.replaceSwitches other entries)) index =
              .ok view' ∧
            view'.chain.get? (.onPath path key) = some b' ∧
            b'.enabled = b.enabled ∧ b'.source = b.source) ∧
    (∀ i j, r.snapshots.length ≤ i → r.snapshots.length ≤ j →
      ∃ chain v w, r.assemble = .ok chain ∧ e.resolve r i = .ok v ∧ e.resolve r j = .ok w ∧
        v.chain = w.chain ∧
        v.chain.blocks.map (fun b => ⟨b.id, b.block⟩) = chain ∧
        ∀ b ∈ v.chain.blocks,
          b.params = b.block.params ∧ b.snapshotControlled = [] ∧ b.designShift = false) := by
  constructor
  · intro index path key block hblock
    refine ⟨e.view r index, r.resolveBlock e.matcher (r.snapshot? index) ⟨.onPath path key, block⟩,
      e.resolve_of_hasPath h index, ?_, rfl, r.resolveBlock_followsPriority _ _ _ _ _, ?_⟩
    · rw [e.get?_view_onPath, hblock]
      rfl
    · intro other entries hother
      let changed := r.modifySnapshot index (fun s => s.replaceSwitches other entries)
      have hchanged : changed.block? path key = some block := hblock
      refine ⟨e.view changed index,
        changed.resolveBlock e.matcher (changed.snapshot? index) ⟨.onPath path key, block⟩,
        e.resolve_of_hasPath (r := changed) h index, ?_,
        r.resolveBlock_modifySnapshot_source e.matcher index hother entries key block⟩
      rw [e.get?_view_onPath, hchanged]
      rfl
  · intro i j hi hj
    have hchain := fun index (hindex : r.snapshots.length ≤ index) =>
      Rig.resolveChain_of_snapshot?_eq_none (Rig.snapshot?_eq_none_iff.2 hindex) e.matcher
    refine ⟨r.stages, e.view r i, e.view r j, Rig.assemble_of_hasPath h,
      e.resolve_of_hasPath h i, e.resolve_of_hasPath h j, ?_, ?_, ?_⟩
    · rw [e.chain_view, e.chain_view, hchain i hi, hchain j hj]
    · rw [e.chain_view, hchain i hi, List.map_map]
      exact List.map_id r.stages
    · intro b hb
      rw [e.chain_view, hchain i hi] at hb
      obtain ⟨stage, -, rfl⟩ := List.mem_map.1 hb
      exact ⟨rfl, rfl, rfl⟩

/-- One key on both paths, and a snapshot whose switches and hint disagree on the second. -/
def sharedKeyRig : Rig Float :=
  { (Rig.empty : Rig Float) with
    path0 := some (Table.ofList [("a", Block.ofModel "BassBoost")])
    path1 := some (Table.ofList [("a", { Block.ofModel "HD2_ReverbPlate" with enabled := false })])
    snapshots :=
      [((Snapshot.ofName "Lead").withBlockEnabled .path0 "a" true).withHint
        ⟨["plate"], Table.empty, none, none⟩] }

theorem enabled_by_priority_sharedKey :
    sharedKeyRig.HasPath ∧
      (∃ view b, Engine.standard.resolve sharedKeyRig 0 = .ok view ∧
        view.chain.get? (.onPath .path1 "a") = some b ∧
        b.enabled = false ∧ b.source = .stored) ∧
      ∃ v w, Engine.standard.resolve sharedKeyRig 1 = .ok v ∧
        Engine.standard.resolve sharedKeyRig 2 = .ok w ∧ v.chain = w.chain := by
  have hpath : sharedKeyRig.HasPath := Or.inl rfl
  obtain ⟨hblocks, houtside⟩ := enabled_by_priority Engine.standard sharedKeyRig hpath
  obtain ⟨view, b, hok, hget, hblock, hpriority, -⟩ :=
    hblocks 0 .path1 "a" { Block.ofModel "HD2_ReverbPlate" with enabled := false } rfl
  obtain ⟨henabled, hsource⟩ := hpriority.unlisted _ _ rfl rfl rfl
  obtain ⟨-, v, w, -, hv, hw, hsame, -⟩ := houtside 1 2 (by decide) (by decide)
  exact ⟨hpath, ⟨view, b, hok, hget, by rw [henabled, hblock], hsource⟩, v, w, hv, hw, hsame⟩

end SignalChain
