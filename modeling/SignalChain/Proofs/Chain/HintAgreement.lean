import SignalChain.Proofs.Chain.Isolation
import SignalChain.Proofs.Chain.Switch
import SignalChain.Proofs.Rig.Warnings

/-!
# What hints switch on and what they list

Two questions are put to hints.  The selected snapshot's hint is asked whether a
block is on, unless the device knows; and the hint of every snapshot is asked
for the list of those that want the block.  Both mean a block by the same names,
so a block that a hint switches is on exactly when its own snapshot is in the
list.  A hint that names more blocks switches none off.
-/

namespace SignalChain

variable {ν : Type}

/-! ## Positions in a list -/

/-- What passes a filter stands at the positions that pass it. -/
theorem map_some_filter {α : Type} (p : α → Bool) (xs : List α) :
    (xs.filter p).map some =
      ((List.range xs.length).filter fun k => xs[k]?.any p).map (fun k => xs[k]?) := by
  have hall : xs.map some = (List.range xs.length).map (fun k => xs[k]?) := by
    refine List.ext_getElem (by simp) fun k hk _ => ?_
    simp
  have hread : (xs.filter p).map some = (xs.map some).filter (Option.any p) := by
    rw [List.filter_map]
    rfl
  rw [hread, hall, List.filter_map]
  rfl

/-! ## The snapshots that want a block -/

/-- The hint of a snapshot names a block, as it is shown or by its model. -/
def Snapshot.Wants (s : Snapshot) (matcher : Matcher) (b : ResolvedBlock ν) : Prop :=
  ∃ hint, s.hint = some hint ∧ ∃ reference ∈ hint.activeBlocks,
    matcher reference b.displayName = true ∨ matcher reference b.block.model = true

/-- The positions of all snapshots that want a block, in order. -/
structure Rig.WantedAt (r : Rig ν) (matcher : Matcher) (b : ResolvedBlock ν)
    (positions : List Nat) : Prop where
  increasing : positions.Pairwise (· < ·)
  mem_iff : ∀ k, k ∈ positions ↔ ∃ s, r.snapshot? k = some s ∧ s.Wants matcher b

/-- The positions of the snapshots whose hints want a stage on, by its names. -/
def Rig.positionsWanting (r : Rig ν) (matcher : Matcher) (names : List String) : List Nat :=
  (List.range r.snapshots.length).filter fun k =>
    (r.snapshot? k).any fun s => s.hint.any fun hint => hint.activates matcher names

namespace Rig

theorem mem_positionsWanting_iff {r : Rig ν} {matcher : Matcher} {names : List String} {k : Nat} :
    k ∈ r.positionsWanting matcher names ↔
      ∃ s, r.snapshot? k = some s ∧
        (s.hint.any fun hint => hint.activates matcher names) = true := by
  rw [positionsWanting, List.mem_filter, List.mem_range, Option.any_eq_true]
  constructor
  · rintro ⟨-, hwanted⟩
    exact hwanted
  · rintro ⟨s, hs, hwanted⟩
    have hlt : k < r.snapshots.length := (List.getElem?_eq_some_iff.1 hs).1
    exact ⟨hlt, s, hs, hwanted⟩

theorem map_some_activeSnapshots (r : Rig ν) (matcher : Matcher) (names : List String) :
    (activeSnapshots matcher names r.snapshots).map some =
      (r.positionsWanting matcher names).map fun k => (r.snapshot? k).map fun s => s.name := by
  have hpositions := congrArg (List.map (Option.map fun s : Snapshot => s.name))
    (map_some_filter (fun s => s.hint.any fun hint => hint.activates matcher names) r.snapshots)
  rw [List.map_map, List.map_map] at hpositions
  rw [activeSnapshots, List.map_map]
  exact hpositions

theorem exists_name_mem_activeSnapshots {r : Rig ν} {matcher : Matcher} {names : List String}
    {k : Nat} (h : k ∈ r.positionsWanting matcher names) :
    ∃ s, r.snapshot? k = some s ∧ s.name ∈ activeSnapshots matcher names r.snapshots := by
  rcases mem_positionsWanting_iff.1 h with ⟨s, hs, hwanted⟩
  have hfiltered : s ∈ r.snapshots.filter
      fun s => s.hint.any fun hint => hint.activates matcher names :=
    List.mem_filter.2 ⟨List.mem_of_getElem? hs, hwanted⟩
  exact ⟨s, hs, List.mem_map.2 ⟨s, hfiltered, rfl⟩⟩

end Rig

/-! ## A block of a path -/

variable [Amount ν]

section PathBlock

variable {r : Rig ν} {matcher : Matcher} {snapshot : Option Snapshot} {path : DspPath}
  {key : String} {block : Block}

theorem Snapshot.wants_iff {s : Snapshot} :
    s.Wants matcher (r.resolveBlock matcher snapshot ⟨.onPath path key, block⟩) ↔
      (s.hint.any fun hint =>
        hint.activates matcher (ChainBlock.candidateNames ⟨.onPath path key, block⟩)) = true := by
  simp only [Wants, Option.any_eq_true, Hint.activates_iff]
  simp [ChainBlock.candidateNames, BlockId.isInstrument, Rig.resolveBlock]

theorem Rig.wantedAt_positionsWanting :
    r.WantedAt matcher (r.resolveBlock matcher snapshot ⟨.onPath path key, block⟩)
      (r.positionsWanting matcher (ChainBlock.candidateNames ⟨.onPath path key, block⟩)) where
  increasing := List.pairwise_lt_range.filter _
  mem_iff k := by
    rw [mem_positionsWanting_iff]
    simp only [Snapshot.wants_iff]

/-- A block that a hint switches is on exactly if the selected snapshot wants it. -/
theorem Rig.enabled_iff_wants
    (h : (r.resolveBlock matcher snapshot ⟨.onPath path key, block⟩).source = .hint) :
    (r.resolveBlock matcher snapshot ⟨.onPath path key, block⟩).enabled = true ↔
      ∃ s, snapshot = some s ∧
        s.Wants matcher (r.resolveBlock matcher snapshot ⟨.onPath path key, block⟩) := by
  have hpriority := r.resolveBlock_followsPriority matcher snapshot path key block
  cases snapshot with
  | none =>
      rw [(hpriority.unselected rfl).2] at h
      cases h
  | some s =>
      cases hblocks : s.blocks with
      | some switches =>
          cases hget : switches.get? path key with
          | none =>
              rw [(hpriority.unlisted s switches rfl hblocks hget).2] at h
              cases h
          | some on =>
              rw [(hpriority.listed s switches on rfl hblocks hget).2] at h
              cases h
      | none =>
          by_cases hempty : ∀ hint, s.hint = some hint → hint.activeBlocks = []
          · rw [(hpriority.unhinted s rfl hblocks hempty).2] at h
            cases h
          · push Not at hempty
            rcases hempty with ⟨hint, hhint, hne⟩
            rw [(hpriority.hinted s hint rfl hblocks hhint hne).2]
            constructor
            · intro hwanted
              exact ⟨s, rfl, hint, hhint, hwanted⟩
            · rintro ⟨s', hs, hint', hhint', hwanted⟩
              cases hs
              cases hhint.symm.trans hhint'
              exact hwanted

end PathBlock

/-! ## More references -/

/-- Append references to those that a hint wants on. -/
def Hint.appendReferences (hint : Hint) (references : List String) : Hint :=
  { hint with activeBlocks := hint.activeBlocks ++ references }

/-- Append references to those that a snapshot's hint wants on. -/
def Snapshot.appendReferences (s : Snapshot) (references : List String) : Snapshot :=
  { s with hint := s.hint.map fun hint => hint.appendReferences references }

omit [Amount ν] in
theorem Hint.activates_appendReferences {hint : Hint} {matcher : Matcher} {names : List String}
    (h : hint.activates matcher names = true) (references : List String) :
    (hint.appendReferences references).activates matcher names = true := by
  rcases activates_iff.1 h with ⟨reference, hmem, hmeans⟩
  exact activates_iff.2 ⟨reference, List.mem_append_left _ hmem, hmeans⟩

/--
Two states of a block differ in no more than the list of the snapshots that want
it and in whether it is on, and this only if a hint decides and wants it now.
-/
structure ResolvedBlock.WantedMore (b b' : ResolvedBlock ν) : Prop where
  same : b' = { b with enabled := b'.enabled, activeIn := b'.activeIn }
  unhinted : b.source ≠ .hint → b'.enabled = b.enabled
  enabled : b.enabled = true → b'.enabled = true

section Appended

variable {s : Snapshot} {hint : Hint} (hhint : s.hint = some hint)
  (hne : hint.activeBlocks ≠ []) (references : List String)
include hhint hne

omit [Amount ν] in
theorem ChainBlock.selectedState_appendReferences (stage : ChainBlock) (matcher : Matcher) :
    let before := stage.selectedState matcher (some s)
    let after := stage.selectedState matcher (some (s.appendReferences references))
    after.2 = before.2 ∧ (before.2 ≠ .hint → after.1 = before.1) ∧
      (before.1 = true → after.1 = true) := by
  intro before after
  obtain ⟨id, block⟩ := stage
  cases id with
  | instrument => exact ⟨rfl, fun _ => rfl, fun hon => hon⟩
  | onPath path key =>
      cases hblocks : s.blocks with
      | some switches =>
          have hsame : after = before := by
            simp [after, before, selectedState, Snapshot.appendReferences, Snapshot.blockEnabled?,
              hblocks]
          rw [hsame]
          exact ⟨rfl, fun _ => rfl, fun hon => hon⟩
      | none =>
          have hbefore : before =
              (hint.activates matcher (candidateNames ⟨.onPath path key, block⟩), .hint) := by
            simp [before, selectedState, hblocks, hhint, hne]
          have hafter : after =
              ((hint.appendReferences references).activates matcher
                (candidateNames ⟨.onPath path key, block⟩), .hint) := by
            simp [after, selectedState, Snapshot.appendReferences, Hint.appendReferences, hblocks,
              hhint, hne]
          rw [hbefore, hafter]
          exact ⟨rfl, fun hsource => absurd rfl hsource,
            fun hon => Hint.activates_appendReferences hon references⟩

theorem Rig.resolveBlock_wantedMore {r r' : Rig ν} (h : r.SameDevice r') (matcher : Matcher)
    (stage : ChainBlock) :
    (r.resolveBlock matcher (some s) stage).WantedMore
      (r'.resolveBlock matcher (some (s.appendReferences references)) stage) := by
  rcases stage.selectedState_appendReferences hhint hne references matcher with
    ⟨hsource, hunhinted, henabled⟩
  have hparams : stage.selectedParams (some (s.appendReferences references)) =
      stage.selectedParams (some s) := stage.selectedParams_congr (by rfl)
  have hhinted : ∀ names, ((s.appendReferences references).hint).any
      (fun hint => hint.hasParamsFor matcher names) =
        s.hint.any (fun hint => hint.hasParamsFor matcher names) := by
    intro names
    rw [Snapshot.appendReferences, hhint]
    rfl
  refine ⟨?_, hunhinted, henabled⟩
  simp only [resolveBlock, hsource, hparams, h.controllers, h.costs, Option.isSome_some,
    Option.bind_some, hhinted]

end Appended

/-! ## Whole views -/

/-- A hint with more references wants more of the blocks, and nothing else in the view changes. -/
theorem Engine.view_appendReferences (e : Engine ν) {r : Rig ν} {index : Nat} {s : Snapshot}
    (hs : r.snapshot? index = some s) {hint : Hint} (hhint : s.hint = some hint)
    (hne : hint.activeBlocks ≠ []) (references : List String) :
    let v := e.view r index
    let w := e.view (r.modifySnapshot index fun s => s.appendReferences references) index
    w = { v with chain := { v.chain with blocks := w.chain.blocks } } ∧
      List.Forall₂ ResolvedBlock.WantedMore v.chain.blocks w.chain.blocks := by
  intro v w
  have hdevice := r.sameDevice_modifySnapshot index fun s => s.appendReferences references
  have hselected := r.snapshot?_modifySnapshot index fun s => s.appendReferences references
  rw [hs, Option.map_some] at hselected
  have hblocks : List.Forall₂ ResolvedBlock.WantedMore v.chain.blocks w.chain.blocks := by
    refine e.forall₂_blocks_view hdevice fun stage => ?_
    rw [hs, hselected]
    exact Rig.resolveBlock_wantedMore hhint hne references hdevice e.matcher _
  refine ⟨?_, hblocks⟩
  have hname : ((r.modifySnapshot index fun s => s.appendReferences references).snapshot?
      index).map (fun s => s.name) = (r.snapshot? index).map (fun s => s.name) := by
    rw [hselected, hs]
    rfl
  have hview := e.view_congr hdevice.costs hname
    (hblocks.imp fun b b' hb => ⟨congrArg (·.id) hb.same, congrArg (·.block) hb.same⟩)
  have hwarnings := r.warnings_modifySnapshot index
    (f := fun s => s.appendReferences references) fun _ => rfl
  rw [hwarnings] at hview
  exact hview

/--
The list of a block and its switch go by the same snapshots.  The list names
them in order; and a block that a hint switches is on exactly when the selected
snapshot is one of them, so that its name is in the list.  References that are
appended to a hint that has some switch nothing off, and change nothing but the
blocks that they switch on and the lists.
-/
theorem hints_agree_with_lists (e : Engine ν) {r : Rig ν} (h : r.HasPath) (index : Nat) :
    ∃ v, e.resolve r index = .ok v ∧
      (∀ b ∈ v.chain.blocks, ∀ path key, b.id = .onPath path key →
        ∃ positions, r.WantedAt e.matcher b positions ∧
          b.activeIn.map some = positions.map (fun k => (r.snapshot? k).map fun s => s.name) ∧
          (b.source = .hint → (b.enabled = true ↔ index ∈ positions) ∧
            (b.enabled = true → ∃ s, r.snapshot? index = some s ∧ s.name ∈ b.activeIn))) ∧
      ∀ s hint references, r.snapshot? index = some s → s.hint = some hint →
        hint.activeBlocks ≠ [] →
        ∃ w, e.resolve (r.modifySnapshot index fun s => s.appendReferences references) index =
            .ok w ∧
          w = { v with chain := { v.chain with blocks := w.chain.blocks } } ∧
          List.Forall₂ ResolvedBlock.WantedMore v.chain.blocks w.chain.blocks := by
  refine ⟨e.view r index, e.resolve_of_hasPath h index, ?_, ?_⟩
  · rintro b hb path key hid
    rcases (e.mem_blocks_view_iff r index).1 hb with ⟨base, -, rfl⟩ | ⟨other, name, block, -, rfl⟩
    · cases hid
    · refine ⟨r.positionsWanting e.matcher (ChainBlock.candidateNames ⟨.onPath other name, block⟩),
        Rig.wantedAt_positionsWanting, r.map_some_activeSnapshots e.matcher _, ?_⟩
      intro hsource
      have hon := (Rig.enabled_iff_wants hsource).trans
        (Rig.wantedAt_positionsWanting.mem_iff index).symm
      constructor
      · exact hon
      · intro henabled
        exact Rig.exists_name_mem_activeSnapshots (hon.1 henabled)
  · intro s hint references hs hhint hne
    rcases e.view_appendReferences hs hhint hne references with ⟨hview, hblocks⟩
    exact ⟨_, e.resolve_of_hasPath ((r.sameDevice_modifySnapshot index _).hasPath h) index, hview,
      hblocks⟩

/-- Two snapshots of one name, of which only the first wants the block. -/
def namesakeRig : Rig Float :=
  oneBlockRig
    [(Snapshot.ofName "Lead").withHint ⟨["boost"], Table.empty, none, none⟩,
      (Snapshot.ofName "Lead").withHint ⟨["reverb"], Table.empty, none, none⟩]

/-- The block is off under the second snapshot although its name is in the list. -/
theorem hints_agree_with_lists_namesake :
    namesakeRig.HasPath ∧
      ∃ v b, Engine.standard.resolve namesakeRig 1 = .ok v ∧ b ∈ v.chain.blocks ∧
        b.id = .onPath .path0 "a" ∧ b.source = .hint ∧ b.enabled = false ∧
        b.activeIn = ["Lead"] ∧
        (∃ positions, namesakeRig.WantedAt Matcher.substring b positions ∧ 1 ∉ positions) ∧
        ∃ w, Engine.standard.resolve
            (namesakeRig.modifySnapshot 1 fun s => s.appendReferences ["bass"]) 1 = .ok w ∧
          List.Forall₂ ResolvedBlock.WantedMore v.chain.blocks w.chain.blocks := by
  have hpath : namesakeRig.HasPath := Or.inl rfl
  obtain ⟨v, hv, hlists, happend⟩ := hints_agree_with_lists Engine.standard hpath 1
  have hview : v = Engine.standard.view namesakeRig 1 :=
    Except.ok.inj (hv.symm.trans (Engine.standard.resolve_of_hasPath hpath 1))
  let b := namesakeRig.resolveBlock Matcher.substring (namesakeRig.snapshot? 1)
    ⟨.onPath .path0 "a", Block.ofModel "BassBoost"⟩
  have hb : b ∈ v.chain.blocks := by
    rw [hview]
    exact (Engine.standard.mem_blocks_view_iff namesakeRig 1).2 (Or.inr ⟨_, _, _, rfl, rfl⟩)
  have hsource : b.source = .hint := by decide +kernel
  have hoff : b.enabled = false := by decide +kernel
  obtain ⟨positions, hwanted, -, hswitch⟩ := hlists b hb .path0 "a" rfl
  obtain ⟨w, hw, -, hmore⟩ := happend _ _ ["bass"] rfl rfl (by decide)
  refine ⟨hpath, v, b, hv, hb, rfl, hsource, hoff, by decide +kernel, ⟨positions, hwanted, ?_⟩, w,
    hw, hmore⟩
  intro hmem
  rw [(hswitch hsource).1.2 hmem] at hoff
  cases hoff

end SignalChain
