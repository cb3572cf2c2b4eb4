import SignalChain.Proofs.Chain.Override
import SignalChain.Proofs.Chain.Isolation
import SignalChain.Proofs.Rig.Slot

/-!
# How far an override reaches

A switch or a value that is put into a snapshot shows in the view of that
snapshot and in no other, and there on the block that it names.  A value changes
one parameter, if the block has it.  A switch decides for its block.  The first
switch of a snapshot also silences the hint: every block that the hint decided
for is back in its stored state.
-/

namespace SignalChain

variable {ν : Type}

/-! ## What becomes of a resolved block -/

namespace ResolvedBlock

/-- The block, switched by the device. -/
def switched (b : ResolvedBlock ν) (on : Bool) : ResolvedBlock ν :=
  { b with enabled := on, source := .technical }

/-- The block, in its stored state if a hint decided for it. -/
def unhinted (b : ResolvedBlock ν) : ResolvedBlock ν :=
  if b.source = .hint then { b with enabled := b.block.enabled, source := .stored } else b

/-- The block with another value of a parameter, if it has the parameter. -/
def withValue (b : ResolvedBlock ν) (param : String) (x : Float) : ResolvedBlock ν :=
  { b with
    params := b.params.map (fun name value => if name = param then .number x else value) }

/-- What a switch in a snapshot makes of a block. -/
def afterSwitch (b : ResolvedBlock ν) (s : Snapshot) (id : BlockId) (on : Bool) :
    ResolvedBlock ν :=
  if b.id = id then b.switched on
  else if s.blocks.isSome then b
  else b.unhinted

/-- What a value in a snapshot makes of a block. -/
def afterValue (b : ResolvedBlock ν) (id : BlockId) (param : String) (x : Float) :
    ResolvedBlock ν :=
  if b.id = id then b.withValue param x else b

section Cases

variable {s : Snapshot} {id : BlockId} {b : ResolvedBlock ν} (on : Bool)

theorem afterSwitch_of_id_eq (h : b.id = id) : b.afterSwitch s id on = b.switched on :=
  if_pos h

theorem afterSwitch_of_switches (h : b.id ≠ id) (hs : s.blocks.isSome = true) :
    b.afterSwitch s id on = b := by
  rw [afterSwitch, if_neg h, if_pos hs]

theorem afterSwitch_of_noSwitches (h : b.id ≠ id) (hs : s.blocks = none) :
    b.afterSwitch s id on = b.unhinted := by
  rw [afterSwitch, if_neg h, hs, if_neg (by decide)]

theorem unhinted_of_source_eq (h : b.source = .hint) :
    b.unhinted = { b with enabled := b.block.enabled, source := .stored } :=
  if_pos h

theorem unhinted_of_source_ne (h : b.source ≠ .hint) : b.unhinted = b :=
  if_neg h

end Cases

/-- A change that leaves the stage of each block as it is stored. -/
def KeepsStage (f : ResolvedBlock ν → ResolvedBlock ν) : Prop :=
  ∀ b, (f b).id = b.id ∧ (f b).block = b.block

theorem keepsStage_unhinted : KeepsStage (unhinted (ν := ν)) := by
  intro b
  unfold unhinted
  split <;> exact ⟨rfl, rfl⟩

theorem keepsStage_afterSwitch (s : Snapshot) (id : BlockId) (on : Bool) :
    KeepsStage (fun b : ResolvedBlock ν => b.afterSwitch s id on) := by
  intro b
  dsimp only [afterSwitch]
  split
  · exact ⟨rfl, rfl⟩
  · split
    · exact ⟨rfl, rfl⟩
    · exact keepsStage_unhinted b

theorem keepsStage_afterValue (id : BlockId) (param : String) (x : Float) :
    KeepsStage (fun b : ResolvedBlock ν => b.afterValue id param x) := by
  intro b
  dsimp only [afterValue]
  split <;> exact ⟨rfl, rfl⟩

end ResolvedBlock

/-! ## The stages under one more override -/

namespace ChainBlock

theorem selectedState_withBlockEnabled (s : Snapshot) (path : DspPath) (key : String) (on : Bool)
    (stage : ChainBlock) (matcher : Matcher) :
    stage.selectedState matcher (some (s.withBlockEnabled path key on)) =
      if stage.id = .onPath path key then (on, .technical)
      else if s.blocks.isSome then stage.selectedState matcher (some s)
      else (stage.block.enabled, .stored) := by
  obtain ⟨id, block⟩ := stage
  have hswitches : (s.withBlockEnabled path key on).blocks.isSome = true := rfl
  cases id with
  | instrument =>
      rw [if_neg BlockId.noConfusion]
      split <;> rfl
  | onPath other name =>
      simp only [selectedState, hswitches, if_true, s.blockEnabled?_withBlockEnabled,
        BlockId.onPath.injEq]
      by_cases hnamed : other = path ∧ name = key
      · simp only [hnamed, and_self, if_true]
      · simp only [hnamed, if_false]
        cases hblocks : s.blocks with
        | none => simp [Snapshot.blockEnabled?, hblocks]
        | some switches => simp

/-- Without switches, a stage is as the hint wants it or as it is stored. -/
theorem selectedState_of_noSwitches {s : Snapshot} (h : s.blocks = none) (stage : ChainBlock)
    (matcher : Matcher) :
    (stage.selectedState matcher (some s)).2 = .hint ∨
      stage.selectedState matcher (some s) = (stage.block.enabled, .stored) := by
  unfold selectedState
  cases stage.id with
  | instrument => exact Or.inr rfl
  | onPath path key =>
      cases hhint : s.hint with
      | none => exact Or.inr (by simp [h, hhint])
      | some hint =>
          by_cases hempty : hint.activeBlocks = []
          · exact Or.inr (by simp [h, hhint, hempty])
          · exact Or.inl (by simp [h, hhint, hempty])

theorem selectedParams_withParamValue (s : Snapshot) (path : DspPath) (key param : String)
    (x : Float) (stage : ChainBlock) :
    stage.selectedParams (some (s.withParamValue path key param x)) =
      if stage.id = .onPath path key then
        (stage.selectedParams (some s)).map
          (fun name value => if name = param then .number x else value)
      else stage.selectedParams (some s) := by
  obtain ⟨id, block⟩ := stage
  cases id with
  | instrument => rw [if_neg BlockId.noConfusion]; rfl
  | onPath other name =>
      refine Table.eq_of_get? fun param' => ?_
      by_cases hnamed : other = path ∧ name = key
      · obtain ⟨rfl, rfl⟩ := hnamed
        simp only [selectedParams, if_true, Table.get?_map, s.paramValue?_withParamValue,
          true_and, Option.map_map]
        by_cases hparam : param' = param
        · simp only [hparam, if_true, Function.comp_def]
        · simp only [hparam, if_false, Function.comp_def]
      · have hid : BlockId.onPath other name ≠ .onPath path key := by simpa using hnamed
        simp only [selectedParams, if_neg hid, Table.get?_map, s.paramValue?_withParamValue]
        have hnot : ¬ (other = path ∧ name = key ∧ param' = param) :=
          fun hall => hnamed ⟨hall.1, hall.2.1⟩
        rw [if_neg hnot]

end ChainBlock

variable [Amount ν]

namespace Rig

theorem resolveBlock_withBlockEnabled (r : Rig ν) (matcher : Matcher) (s : Snapshot)
    (path : DspPath) (key : String) (on : Bool) (stage : ChainBlock) :
    r.resolveBlock matcher (some (s.withBlockEnabled path key on)) stage =
      (r.resolveBlock matcher (some s) stage).afterSwitch s (.onPath path key) on := by
  -- A switch is asked for the state of a stage and for nothing else.
  have hresolved : r.resolveBlock matcher (some (s.withBlockEnabled path key on)) stage =
      { r.resolveBlock matcher (some s) stage with
        enabled := (stage.selectedState matcher (some (s.withBlockEnabled path key on))).1
        source := (stage.selectedState matcher (some (s.withBlockEnabled path key on))).2 } := by
    have hparams : stage.selectedParams (some (s.withBlockEnabled path key on)) =
        stage.selectedParams (some s) := stage.selectedParams_congr (by rfl)
    simp only [resolveBlock, hparams]
    rfl
  rw [hresolved, stage.selectedState_withBlockEnabled]
  by_cases hid : stage.id = .onPath path key
  · rw [ResolvedBlock.afterSwitch_of_id_eq on hid, if_pos hid]
    rfl
  · rw [if_neg hid]
    cases hblocks : s.blocks with
    | some switches =>
        have hsome : s.blocks.isSome = true := by rw [hblocks]; rfl
        rw [ResolvedBlock.afterSwitch_of_switches on hid hsome]
        rfl
    | none =>
        rw [ResolvedBlock.afterSwitch_of_noSwitches on hid hblocks]
        rcases stage.selectedState_of_noSwitches hblocks matcher with hhint | hstored
        · rw [ResolvedBlock.unhinted_of_source_eq hhint]
          rfl
        · have hsource : (r.resolveBlock matcher (some s) stage).source ≠ .hint := by
            simp only [resolveBlock, hstored]
            decide
          rw [ResolvedBlock.unhinted_of_source_ne hsource]
          simp only [resolveBlock, hstored]
          rfl

theorem resolveBlock_withParamValue (r : Rig ν) (matcher : Matcher) (s : Snapshot)
    (path : DspPath) (key param : String) (x : Float) (stage : ChainBlock) :
    r.resolveBlock matcher (some (s.withParamValue path key param x)) stage =
      (r.resolveBlock matcher (some s) stage).afterValue (.onPath path key) param x := by
  have hresolved : r.resolveBlock matcher (some (s.withParamValue path key param x)) stage =
      { r.resolveBlock matcher (some s) stage with
        params := stage.selectedParams (some (s.withParamValue path key param x)) } := by
    have hstate : stage.selectedState matcher (some (s.withParamValue path key param x)) =
        stage.selectedState matcher (some s) := stage.selectedState_congr (by rfl) (by rfl) matcher
    simp only [resolveBlock, hstate]
    rfl
  rw [hresolved, stage.selectedParams_withParamValue]
  unfold ResolvedBlock.afterValue
  by_cases hid : stage.id = .onPath path key
  · rw [if_pos hid, if_pos (by exact hid)]
    rfl
  · rw [if_neg hid, if_neg (by exact hid)]
    rfl

end Rig

/-! ## Changes of switches and values -/

/-- A change of a snapshot that leaves all but its switches and values as they are. -/
structure Snapshot.ChangesBlocks (f : Snapshot → Snapshot) : Prop where
  name_eq : ∀ s, (f s).name = s.name
  hint_eq : ∀ s, (f s).hint = s.hint
  instrumentControllers_eq : ∀ s, (f s).instrumentControllers = s.instrumentControllers
  instrument_eq : ∀ s, (f s).instrument = s.instrument

theorem Snapshot.changesBlocks_withBlockEnabled (path : DspPath) (key : String) (on : Bool) :
    ChangesBlocks (fun s => s.withBlockEnabled path key on) :=
  ⟨fun _ => rfl, fun _ => rfl, fun _ => rfl, fun _ => rfl⟩

theorem Snapshot.changesBlocks_withParamValue (path : DspPath) (key param : String) (x : Float) :
    ChangesBlocks (fun s => s.withParamValue path key param x) :=
  ⟨fun _ => rfl, fun _ => rfl, fun _ => rfl, fun _ => rfl⟩

section ChangesBlocks

variable {f : Snapshot → Snapshot} (hf : Snapshot.ChangesBlocks f)
include hf

omit [Amount ν] in
theorem Rig.activeSnapshots_modifySnapshot (r : Rig ν) (index : Nat) (matcher : Matcher)
    (names : List String) :
    activeSnapshots matcher names (r.modifySnapshot index f).snapshots =
      activeSnapshots matcher names r.snapshots := by
  have hkept := Rig.map_snapshots_modifySnapshot (f := f)
    (g := fun s : Snapshot => (s.name, s.hint)) (fun s => by rw [hf.name_eq, hf.hint_eq]) r index
  have hread : ∀ snapshots, activeSnapshots matcher names snapshots =
      ((snapshots.map fun s : Snapshot => (s.name, s.hint)).filter fun entry =>
        entry.2.any fun hint => hint.activates matcher names).map (·.1) := by
    intro snapshots
    rw [List.filter_map, List.map_map]
    rfl
  rw [hread, hread, hkept]

/-- Of the snapshots that are not selected, a stage is told the names and the hints. -/
theorem Rig.resolveBlock_modifySnapshot (r : Rig ν) (index : Nat) :
    (r.modifySnapshot index f).resolveBlock = r.resolveBlock := by
  funext matcher snapshot stage
  have hcontrollers : (r.modifySnapshot index f).controllers = r.controllers := rfl
  have hcosts : (r.modifySnapshot index f).costs = r.costs := rfl
  simp only [resolveBlock, hcontrollers, hcosts, r.activeSnapshots_modifySnapshot hf]

end ChangesBlocks

/-! ## Views without their warnings -/

namespace View

/-- What a view shows of a rig, without the warnings of its validation. -/
def unwarned (v : View ν) : View ν :=
  { v with warnings := [] }

/-- The view with each block of its chain replaced. -/
def mapBlocks (v : View ν) (f : ResolvedBlock ν → ResolvedBlock ν) : View ν :=
  { v with chain := { v.chain with blocks := v.chain.blocks.map f } }

omit [Amount ν] in
theorem mapBlocks_id (v : View ν) : v.mapBlocks id = v := by
  simp [mapBlocks]

end View

namespace Engine

/--
The views of two rigs are the same but for their warnings, and but for a change
of the blocks under one index.
-/
def ShowsOnlyAt (e : Engine ν) (r r' : Rig ν) (index : Nat)
    (g : ResolvedBlock ν → ResolvedBlock ν) : Prop :=
  ∀ j, ∃ v w, e.resolve r j = .ok v ∧ e.resolve r' j = .ok w ∧
    w.unwarned = if j = index then v.unwarned.mapBlocks g else v.unwarned

/-- Whatever is changed stage by stage, and no stage itself, is changed so in the whole view. -/
theorem unwarned_view (e : Engine ν) {r r' : Rig ν} (h : r.SameDevice r') {j : Nat}
    (hsummary : (r'.snapshot? j).map (fun s => s.name) = (r.snapshot? j).map (fun s => s.name))
    {g : ResolvedBlock ν → ResolvedBlock ν} (hkeeps : ResolvedBlock.KeepsStage g)
    (hstage : ∀ stage : ChainBlock,
      r'.resolveBlock e.matcher (r'.snapshot? j)
          (stage.withSelectedInstrument r (r'.snapshot? j)) =
        g (r.resolveBlock e.matcher (r.snapshot? j)
          (stage.withSelectedInstrument r (r.snapshot? j)))) :
    (e.view r' j).unwarned = (e.view r j).unwarned.mapBlocks g := by
  have hblocks : (e.view r' j).chain.blocks = (e.view r j).chain.blocks.map g := by
    simp only [chain_view, Rig.resolveChain, h.stages_eq, h.withSelectedInstrument_eq,
      List.map_map]
    exact List.map_congr_left fun stage _ => hstage stage
  have hstages : List.Forall₂ (fun b b' => b'.id = b.id ∧ b'.block = b.block)
      (e.view r j).chain.blocks (e.view r' j).chain.blocks := by
    rw [hblocks, List.forall₂_map_right_iff, List.forall₂_same]
    exact fun b _ => hkeeps b
  rw [e.view_congr h.costs hsummary hstages, hblocks]
  rfl

theorem showsOnlyAt_modifySnapshot (e : Engine ν) {r : Rig ν} (h : r.HasPath) {index : Nat}
    {s : Snapshot} (hs : r.snapshot? index = some s) {f : Snapshot → Snapshot}
    (hf : Snapshot.ChangesBlocks f) {g : ResolvedBlock ν → ResolvedBlock ν}
    (hkeeps : ResolvedBlock.KeepsStage g)
    (hstage : ∀ stage, r.resolveBlock e.matcher (some (f s)) stage =
      g (r.resolveBlock e.matcher (some s) stage)) :
    e.ShowsOnlyAt r (r.modifySnapshot index f) index g := by
  have hdevice := r.sameDevice_modifySnapshot index f
  intro j
  refine ⟨e.view r j, e.view (r.modifySnapshot index f) j, e.resolve_of_hasPath h j,
    e.resolve_of_hasPath (hdevice.hasPath h) j, ?_⟩
  by_cases hj : j = index
  · subst hj
    have hselected : (r.modifySnapshot j f).snapshot? j = some (f s) := by
      rw [r.snapshot?_modifySnapshot, hs, Option.map_some]
    rw [if_pos rfl]
    refine e.unwarned_view hdevice ?_ hkeeps ?_
    · rw [hselected, hs, Option.map_some, Option.map_some, hf.name_eq]
    · intro stage
      rw [Rig.resolveBlock_modifySnapshot hf, hselected, hs, hstage,
        stage.withSelectedInstrument_congr (hf.instrumentControllers_eq s) (hf.instrument_eq s)]
  · have hother := r.snapshot?_modifySnapshot_of_ne hj f
    have hsame := e.unwarned_view hdevice (congrArg _ hother) (g := id)
      (fun _ => ⟨rfl, rfl⟩) (fun stage => by
        rw [Rig.resolveBlock_modifySnapshot hf, hother]
        rfl)
    rw [if_neg hj, hsame, View.mapBlocks_id]

/-- A value of the selected snapshot is that of its parameter if the block has one. -/
theorem get?_params_view_iff (e : Engine ν) {r : Rig ν} {index : Nat} {s : Snapshot}
    (hs : r.snapshot? index = some s) {path : DspPath} {key param : String} {x : Float}
    (hvalue : s.paramValue? path key param = some x) {b : ResolvedBlock ν}
    (hb : b ∈ (e.view r index).chain.blocks) (hid : b.id = .onPath path key) :
    b.params.get? param = some (.number x) ↔ (b.block.params.get? param).isSome := by
  rcases (e.mem_blocks_view_iff r index).1 hb with ⟨base, -, rfl⟩ | ⟨other, name, block, -, rfl⟩
  · cases hid
  · obtain ⟨rfl, rfl⟩ := BlockId.onPath.inj hid
    rw [hs]
    exact ChainBlock.get?_selectedParams_eq_iff hvalue block

end Engine

/-! ## Switches and values -/

/--
An override reaches the view of its own snapshot only, and changes there what it
names and nothing else.  A switch decides for its block; if it is the first of
the snapshot, the blocks that the hint decided for are stored again.  A value is
that of its parameter exactly if the stored block has the parameter.
-/
theorem overrides_are_local (e : Engine ν) {r : Rig ν} (h : r.HasPath) {index : Nat}
    {s : Snapshot} (hs : r.snapshot? index = some s) (path : DspPath) (key : String) :
    (∀ on, e.ShowsOnlyAt r (r.modifySnapshot index (fun s => s.withBlockEnabled path key on))
      index (fun b => b.afterSwitch s (.onPath path key) on)) ∧
    ∀ param x,
      e.ShowsOnlyAt r (r.modifySnapshot index (fun s => s.withParamValue path key param x))
        index (fun b => b.afterValue (.onPath path key) param x) ∧
      ∀ w, e.resolve (r.modifySnapshot index (fun s => s.withParamValue path key param x)) index =
          .ok w →
        ∀ b ∈ w.chain.blocks, b.id = .onPath path key →
          (b.params.get? param = some (.number x) ↔ (b.block.params.get? param).isSome) := by
  constructor
  · intro on
    refine e.showsOnlyAt_modifySnapshot h hs (Snapshot.changesBlocks_withBlockEnabled path key on)
      (ResolvedBlock.keepsStage_afterSwitch s _ on) ?_
    exact r.resolveBlock_withBlockEnabled e.matcher s path key on
  · intro param x
    have hpath := (r.sameDevice_modifySnapshot index
      (fun s => s.withParamValue path key param x)).hasPath h
    constructor
    · refine e.showsOnlyAt_modifySnapshot h hs
        (Snapshot.changesBlocks_withParamValue path key param x)
        (ResolvedBlock.keepsStage_afterValue _ param x) ?_
      exact r.resolveBlock_withParamValue e.matcher s path key param x
    · intro w hw b hb hid
      rw [e.resolve_of_hasPath hpath] at hw
      cases hw
      have hselected := r.snapshot?_modifySnapshot index
        (fun s => s.withParamValue path key param x)
      rw [hs, Option.map_some] at hselected
      refine e.get?_params_view_iff hselected ?_ hb hid
      rw [s.paramValue?_withParamValue, if_pos ⟨rfl, rfl, rfl⟩]

/-- One key on both paths, and a snapshot whose hint wants both blocks. -/
def hintedPairRig : Rig Float :=
  { (Rig.empty : Rig Float) with
    path0 := some (Table.ofList
      [("a", (Block.ofModel "BassBoost").withParam "Gain" (.text "half"))])
    path1 := some (Table.ofList [("a", { Block.ofModel "HD2_ReverbPlate" with enabled := false })])
    snapshots :=
      [(Snapshot.ofName "Lead").withHint ⟨["boost", "plate"], Table.empty, none, none⟩,
        Snapshot.ofName "Rhythm"] }

/-- The first switch of the snapshot silences its hint on the other path, too. -/
theorem overrides_are_local_hintedPair :
    let s := (Snapshot.ofName "Lead").withHint ⟨["boost", "plate"], Table.empty, none, none⟩
    hintedPairRig.HasPath ∧ hintedPairRig.snapshot? 0 = some s ∧
      ∃ v w, Engine.standard.resolve hintedPairRig 0 = .ok v ∧
        Engine.standard.resolve
            (hintedPairRig.modifySnapshot 0 (fun s => s.withBlockEnabled .path0 "a" true)) 0 =
          .ok w ∧
        v.chain.blocks.map (fun b => (b.enabled, b.source)) = [(true, .hint), (true, .hint)] ∧
        w.chain.blocks.map (fun b => (b.enabled, b.source)) =
          [(true, .technical), (false, .stored)] ∧
        w.unwarned =
          v.unwarned.mapBlocks (fun b => b.afterSwitch s (.onPath .path0 "a") true) := by
  intro s
  have hpath : hintedPairRig.HasPath := Or.inl rfl
  have hlead : hintedPairRig.snapshot? 0 = some s := rfl
  obtain ⟨hswitch, -⟩ := overrides_are_local Engine.standard hpath hlead .path0 "a"
  obtain ⟨v, w, hv, hw, hview⟩ := hswitch true 0
  have hbefore : v = Engine.standard.view hintedPairRig 0 :=
    Except.ok.inj (hv.symm.trans (Engine.standard.resolve_of_hasPath hpath 0))
  have hblocks : w.chain.blocks =
      v.chain.blocks.map (fun b => b.afterSwitch s (.onPath .path0 "a") true) :=
    congrArg (fun view => view.chain.blocks) hview
  refine ⟨hpath, hlead, v, w, hv, hw, ?_, ?_, hview⟩
  · rw [hbefore]
    decide +kernel
  · rw [hblocks, hbefore]
    decide +kernel

end SignalChain
