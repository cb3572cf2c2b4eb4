import SignalChain.Proofs.Chain.Switch
import SignalChain.Proofs.Rig.Warnings

/-!
# Where the overrides of a snapshot go

A snapshot's own data name blocks by path and key.  The validation walks these
data once, and the resolution looks them up block by block; both agree on which
of them have a block.  So each override is either applied, on exactly one stage,
or reported.  A switch that is applied decides, and a value that is applied
replaces that of a parameter that the block has.
-/

namespace SignalChain

variable {ν : Type}

/-! ## The stages of one id -/

/-- The stages of a chain that have an id. -/
def ResolvedChain.withId (chain : ResolvedChain ν) (id : BlockId) : List (ResolvedBlock ν) :=
  chain.blocks.filter (fun b => decide (b.id = id))

namespace ResolvedChain

theorem withId_eq_nil_iff {chain : ResolvedChain ν} {id : BlockId} :
    chain.withId id = [] ↔ id ∉ chain.blocks.map (·.id) := by
  simp [withId, List.filter_eq_nil_iff]

theorem withId_of_mem {chain : ResolvedChain ν} (hids : (chain.blocks.map (·.id)).Nodup)
    {b : ResolvedBlock ν} (hb : b ∈ chain.blocks) :
    chain.withId b.id = [b] := by
  obtain ⟨before, after, hsplit⟩ := List.append_of_mem hb
  rw [hsplit, List.map_append, List.map_cons] at hids
  obtain ⟨-, hafter, hdisjoint⟩ := List.nodup_append.1 hids
  have hnone : ∀ others : List (ResolvedBlock ν), (∀ c ∈ others, c.id ≠ b.id) →
      others.filter (fun c => decide (c.id = b.id)) = [] := by
    intro others hne
    simpa [List.filter_eq_nil_iff] using hne
  have hbefore : before.filter (fun c => decide (c.id = b.id)) = [] := by
    refine hnone before fun c hc hid => ?_
    exact hdisjoint _ (List.mem_map_of_mem hc) _ List.mem_cons_self hid
  have hrest : after.filter (fun c => decide (c.id = b.id)) = [] := by
    refine hnone after fun c hc hid => ?_
    exact (List.nodup_cons.1 hafter).1 (hid ▸ List.mem_map_of_mem hc)
  rw [withId, hsplit, List.filter_append, List.filter_cons_of_pos (by simp), hbefore, hrest]
  rfl

end ResolvedChain

/-! ## Applied or reported -/

/--
What a snapshot says of a block shows on the one stage that has the id of the
block, and no warning names the block; or no stage has the id, and a warning
names the snapshot and the block.
-/
def View.AppliedOrReported (v : View ν) (snapshot : String) (path : DspPath) (key : String)
    (applied : ResolvedBlock ν → Prop) : Prop :=
  (∃ b, v.chain.withId (.onPath path key) = [b] ∧ applied b ∧
      ∀ name, .unknownSnapshotBlock name path key ∉ v.warnings) ∨
    (v.chain.withId (.onPath path key) = [] ∧
      .unknownSnapshotBlock snapshot path key ∈ v.warnings)

variable [Amount ν]

theorem Engine.warnings_view (e : Engine ν) (r : Rig ν) (index : Nat) :
    (e.view r index).warnings = r.warnings :=
  rfl

/-- Resolution and validation agree on the blocks that a snapshot names. -/
theorem Engine.appliedOrReported_view (e : Engine ν) {r : Rig ν} {index : Nat} {s : Snapshot}
    (hs : r.snapshot? index = some s) {path : DspPath} {key : String} (hnames : s.Names path key)
    {applied : ResolvedBlock ν → Prop}
    (happlied : ∀ block, r.block? path key = some block →
      applied (r.resolveBlock e.matcher (some s) ⟨.onPath path key, block⟩)) :
    (e.view r index).AppliedOrReported s.name path key applied := by
  cases hblock : r.block? path key with
  | some block =>
      refine Or.inl ⟨r.resolveBlock e.matcher (r.snapshot? index) ⟨.onPath path key, block⟩,
        ?_, ?_, ?_⟩
      · exact ResolvedChain.withId_of_mem (e.ids_view_nodup r index)
          ((e.mem_blocks_view_iff r index).2 (Or.inr ⟨path, key, block, hblock, rfl⟩))
      · rw [hs]
        exact happlied block hblock
      · intro name hwarned
        rw [e.warnings_view, Rig.unknownSnapshotBlock_mem_warnings_iff, hblock] at hwarned
        exact Option.some_ne_none _ hwarned.1
  | none =>
      refine Or.inr ⟨?_, ?_⟩
      · rw [ResolvedChain.withId_eq_nil_iff, e.ids_view, Rig.onPath_mem_ids_iff, hblock]
        exact Bool.false_ne_true
      · rw [e.warnings_view, Rig.unknownSnapshotBlock_mem_warnings_iff]
        exact ⟨hblock, s, List.mem_of_getElem? hs, rfl, hnames⟩

/-! ## Switches -/

theorem Rig.switch_of_source_eq_technical {r : Rig ν} {matcher : Matcher} {s : Snapshot}
    {path : DspPath} {key : String} {block : Block}
    (h : (r.resolveBlock matcher (some s) ⟨.onPath path key, block⟩).source = .technical) :
    ∃ switches, s.blocks = some switches ∧
      switches.get? path key =
        some (r.resolveBlock matcher (some s) ⟨.onPath path key, block⟩).enabled := by
  have hpriority := r.resolveBlock_followsPriority matcher (some s) path key block
  cases hblocks : s.blocks with
  | none =>
      by_cases hhinted : ∃ hint, s.hint = some hint ∧ hint.activeBlocks ≠ []
      · obtain ⟨hint, hhint, hne⟩ := hhinted
        have hsource := (hpriority.hinted s hint rfl hblocks hhint hne).1
        rw [h] at hsource
        cases hsource
      · have hstored := hpriority.unhinted s rfl hblocks fun hint hhint =>
          not_not.1 fun hne => hhinted ⟨hint, hhint, hne⟩
        rw [hstored.2] at h
        cases h
  | some switches =>
      refine ⟨switches, rfl, ?_⟩
      cases hget : switches.get? path key with
      | none =>
          have hstored := hpriority.unlisted s switches rfl hblocks hget
          rw [hstored.2] at h
          cases h
      | some on =>
          rw [(hpriority.listed s switches on rfl hblocks hget).1]

/-! ## Values of parameters -/

namespace ChainBlock

theorem keys_selectedParams (stage : ChainBlock) (snapshot : Option Snapshot) :
    (stage.selectedParams snapshot).keys = stage.block.params.keys := by
  unfold selectedParams
  split
  · exact Table.keys_map _ _
  · rfl

/-- A value is applied to a parameter exactly if the block has the parameter. -/
theorem get?_selectedParams_eq_iff {s : Snapshot} {path : DspPath} {key param : String} {x : Float}
    (h : s.paramValue? path key param = some x) (block : Block) :
    (selectedParams ⟨.onPath path key, block⟩ (some s)).get? param = some (.number x) ↔
      (block.params.get? param).isSome := by
  simp only [selectedParams, Table.get?_map, h]
  cases block.params.get? param <;> simp

end ChainBlock

/-! ## All overrides of a snapshot -/

/--
No override of the selected snapshot is lost.  Each switch and each value of a
parameter is applied or reported, nothing else makes a stage's switch the
device's, and no parameter is added or removed.
-/
theorem overrides_applied_or_reported (e : Engine ν) {r : Rig ν} (h : r.HasPath) {index : Nat}
    {s : Snapshot} (hs : r.snapshot? index = some s) :
    ∃ v, e.resolve r index = .ok v ∧ r.validate = .ok v.warnings ∧
      (∀ switches path key on, s.blocks = some switches → (path, key, on) ∈ switches.toList →
        v.AppliedOrReported s.name path key
          (fun b => b.enabled = on ∧ b.source = .technical)) ∧
      (∀ b ∈ v.chain.blocks, b.source = .technical →
        ∃ switches path key, s.blocks = some switches ∧
          (path, key, b.enabled) ∈ switches.toList ∧ b.id = .onPath path key) ∧
      (∀ values path key entries param x, s.params = some values →
        (path, key, entries) ∈ values.toList → (param, x) ∈ entries.toList →
        v.AppliedOrReported s.name path key
          (fun b => b.params.get? param = some (.number x) ↔
            (b.block.params.get? param).isSome)) ∧
      ∀ b ∈ v.chain.blocks, b.params.keys = b.block.params.keys ∧
        ∀ path key, b.id = .onPath path key → r.block? path key = some b.block := by
  refine ⟨e.view r index, e.resolve_of_hasPath h index, Rig.validate_of_hasPath h, ?_, ?_, ?_, ?_⟩
  · intro switches path key on hblocks hentry
    have hget := PerPath.mem_toList_iff.1 hentry
    refine e.appliedOrReported_view hs (Or.inl ⟨switches, hblocks, by rw [hget]; rfl⟩) ?_
    intro block _
    exact (r.resolveBlock_followsPriority e.matcher (some s) path key block).listed
      s switches on rfl hblocks hget
  · intro b hb hsource
    rcases (e.mem_blocks_view_iff r index).1 hb with ⟨base, -, rfl⟩ | ⟨path, key, block, -, rfl⟩
    · rw [hs] at hsource
      cases hsource
    · rw [hs] at hsource ⊢
      obtain ⟨switches, hblocks, hget⟩ := Rig.switch_of_source_eq_technical hsource
      exact ⟨switches, path, key, hblocks, PerPath.mem_toList_iff.2 hget, rfl⟩
  · intro values path key entries param x hparams hentries hentry
    have hget := PerPath.mem_toList_iff.1 hentries
    have hvalue : s.paramValue? path key param = some x := by
      rw [Snapshot.paramValue?, hparams, Option.bind_some, PerPath.getIn?, hget,
        Option.bind_some]
      exact Table.mem_toList_iff.1 hentry
    refine e.appliedOrReported_view hs (Or.inr ⟨values, hparams, by rw [hget]; rfl⟩) ?_
    intro block _
    exact ChainBlock.get?_selectedParams_eq_iff hvalue block
  · intro b hb
    rcases (e.mem_blocks_view_iff r index).1 hb with
      ⟨base, -, rfl⟩ | ⟨path, key, block, hblock, rfl⟩
    · refine ⟨ChainBlock.keys_selectedParams _ _, ?_⟩
      rintro path key hid
      cases hid
    · refine ⟨ChainBlock.keys_selectedParams _ _, ?_⟩
      rintro p k hid
      obtain ⟨rfl, rfl⟩ := BlockId.onPath.inj hid
      exact hblock

/-- A snapshot that switches a key on both paths, and sets two parameters. -/
def strayLead : Snapshot :=
  ((((Snapshot.ofName "Lead").withBlockEnabled .path0 "a" false).withBlockEnabled
    .path1 "a" true).withParamValue .path0 "a" "Gain" 0.9).withParamValue .path0 "a" "Mix" 0.1

/-- Only the first path has a block of the key, and the block has only one of the parameters. -/
def strayRig : Rig Float :=
  { (Rig.empty : Rig Float) with
    path0 := some (Table.ofList
      [("a", (Block.ofModel "BassBoost").withParam "Gain" (.text "half"))])
    snapshots := [strayLead] }

theorem overrides_applied_or_reported_stray :
    strayRig.HasPath ∧ strayRig.snapshot? 0 = some strayLead ∧
      ∃ v, Engine.standard.resolve strayRig 0 = .ok v ∧
        v.AppliedOrReported "Lead" .path1 "a"
          (fun b => b.enabled = true ∧ b.source = .technical) ∧
        v.AppliedOrReported "Lead" .path0 "a"
          (fun b => b.params.get? "Mix" = some (.number 0.1) ↔
            (b.block.params.get? "Mix").isSome) := by
  have hpath : strayRig.HasPath := Or.inl rfl
  have hlead : strayRig.snapshot? 0 = some strayLead := rfl
  obtain ⟨v, hv, -, hswitch, -, hvalue, -⟩ :=
    overrides_applied_or_reported Engine.standard hpath hlead
  refine ⟨hpath, hlead, v, hv, ?_, ?_⟩
  · exact hswitch _ .path1 "a" true rfl (PerPath.mem_toList_iff.2 rfl)
  · exact hvalue _ .path0 "a" _ "Mix" 0.1 rfl (PerPath.mem_toList_iff.2 rfl)
      (Table.mem_toList_iff.2 rfl)

end SignalChain
