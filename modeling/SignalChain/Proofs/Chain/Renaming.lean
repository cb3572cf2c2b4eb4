import Mathlib.Logic.Equiv.Basic
import SignalChain.Proofs.Chain.Budget
import SignalChain.Proofs.Rig.Renaming
import SignalChain.Proofs.Rig.Validation

/-!
# Views do not look into keys

A key only says which of a path's blocks is meant.  It also breaks ties between
blocks at one position, so without such ties a rig has the same chain under
other keys, with the same states and costs, and only the ids are new.
-/

namespace SignalChain

variable {ν : Type}

/-! ## Ids under new keys -/

namespace BlockId

/-- The id of a block under its new key. -/
def rename (f : Renaming) : BlockId → BlockId
  | .instrument => .instrument
  | .onPath path key => .onPath path (f path key)

theorem rename_injective {f : Renaming} (hf : ∀ path, Function.Injective (f path)) :
    Function.Injective (rename f) := by
  intro a b h
  cases a with
  | instrument =>
      cases b with
      | instrument => rfl
      | onPath q l => cases h
  | onPath p k =>
      cases b with
      | instrument => cases h
      | onPath q l =>
          obtain ⟨rfl, hkey⟩ := BlockId.onPath.inj h
          rw [hf p hkey]

end BlockId

/-- A stage under its new id. -/
def ChainBlock.rename (f : Renaming) (stage : ChainBlock) : ChainBlock :=
  { stage with id := stage.id.rename f }

def ResolvedBlock.rename (f : Renaming) (b : ResolvedBlock ν) : ResolvedBlock ν :=
  { b with id := b.id.rename f }

def ResolvedChain.rename (f : Renaming) (chain : ResolvedChain ν) : ResolvedChain ν :=
  { chain with blocks := chain.blocks.map (·.rename f) }

def Budget.rename (f : Renaming) (b : Budget ν) : Budget ν :=
  { b with perBlock := b.perBlock.mapKeys (BlockId.rename f) }

/-- A warning about the blocks under their new keys. -/
def Warning.rename (f : Renaming) : Warning ν → Warning ν
  | .duplicatePosition path position keys => .duplicatePosition path position (keys.map (f path))
  | .unknownSnapshotBlock name path key => .unknownSnapshotBlock name path (f path key)
  | .unknownControllerBlock path key => .unknownControllerBlock path (f path key)
  | .invalidCost model cost => .invalidCost model cost

/-! ## The order of the chain -/

namespace Rig

/-- No two blocks of a path share a position. -/
def DistinctPositions (r : Rig ν) : Prop :=
  ∀ path key other block block', r.block? path key = some block →
    r.block? path other = some block' → key ≠ other → block.position ≠ block'.position

/-- Where no position is shared, positions alone decide the order of a path. -/
theorem DistinctPositions.pathStages_ascend {r : Rig ν} (h : r.DistinctPositions)
    (path : DspPath) :
    (r.pathStages path).Pairwise (fun a b =>
      a.block.position.toInt < b.block.position.toInt) := by
  refine (r.pathStages_precedes path).imp_of_mem ?_
  intro a b ha hb hprecedes
  obtain ⟨k, x, hx, rfl⟩ := mem_pathStages_iff.1 ha
  obtain ⟨l, y, hy, rfl⟩ := mem_pathStages_iff.1 hb
  obtain hpath | ⟨-, hplace⟩ := hprecedes
  · exact absurd hpath (Nat.lt_irrefl _)
  · obtain hlt | ⟨hposition, hkeys⟩ := hplace
    · exact hlt
    · have hne : k ≠ l := by
        intro hkey
        rw [hkey] at hkeys
        exact List.lt_irrefl _ hkeys
      exact absurd hposition (h path k l x y hx hy hne)

variable {f : Renaming} (hf : ∀ path, Function.Injective (f path))
include hf

theorem DistinctPositions.rename {r : Rig ν} (h : r.DistinctPositions) :
    (r.rename f).DistinctPositions := by
  intro path key other block block' hkey hother hne
  obtain ⟨k, rfl, hk⟩ := (block?_rename_eq_some_iff hf).1 hkey
  obtain ⟨l, rfl, hl⟩ := (block?_rename_eq_some_iff hf).1 hother
  have hkeys : k ≠ l := fun heq => hne (congrArg (f path) heq)
  exact h path k l block block' hk hl hkeys

theorem mem_pathStages_rename_iff {r : Rig ν} {path : DspPath} {stage : ChainBlock} :
    stage ∈ (r.rename f).pathStages path ↔
      stage ∈ (r.pathStages path).map (ChainBlock.rename f) := by
  rw [mem_pathStages_iff, List.mem_map]
  constructor
  · intro hstage
    obtain ⟨key, block, hget, rfl⟩ := hstage
    obtain ⟨k, rfl, hk⟩ := (block?_rename_eq_some_iff hf).1 hget
    exact ⟨⟨.onPath path k, block⟩, mem_pathStages_iff.2 ⟨k, block, hk, rfl⟩, rfl⟩
  · intro hstage
    obtain ⟨old, hold, rfl⟩ := hstage
    obtain ⟨k, block, hk, rfl⟩ := mem_pathStages_iff.1 hold
    exact ⟨f path k, block, (block?_rename hf r path k).trans hk, rfl⟩

/-- Both lists hold the same stages, and the positions leave them one order. -/
theorem pathStages_rename {r : Rig ν} (h : r.DistinctPositions) (path : DspPath) :
    (r.rename f).pathStages path = (r.pathStages path).map (ChainBlock.rename f) := by
  have hnew := (h.rename hf).pathStages_ascend path
  have hold : ((r.pathStages path).map (ChainBlock.rename f)).Pairwise (fun a b =>
      a.block.position.toInt < b.block.position.toInt) :=
    List.pairwise_map.2 (h.pathStages_ascend path)
  have hnodup : ∀ {stages : List ChainBlock}, stages.Pairwise (fun a b =>
      a.block.position.toInt < b.block.position.toInt) → stages.Nodup := by
    intro stages hstages
    refine hstages.imp ?_
    intro a b hlt heq
    rw [heq] at hlt
    exact Int.lt_irrefl _ hlt
  have hperm := (List.perm_ext_iff_of_nodup (hnodup hnew) (hnodup hold)).2
    fun _ => mem_pathStages_rename_iff hf
  refine hperm.eq_of_pairwise ?_ hnew hold
  intro a b _ _ hab hba
  omega

theorem stages_rename {r : Rig ν} (h : r.DistinctPositions) :
    (r.rename f).stages = r.stages.map (ChainBlock.rename f) := by
  have hpaths : (r.rename f).pathStages = fun path =>
      (r.pathStages path).map (ChainBlock.rename f) :=
    funext (pathStages_rename hf h)
  have hinstrument : r.instrumentStage.map (ChainBlock.rename f) = r.instrumentStage := by
    rw [instrumentStage_eq, List.map_map]
    rfl
  have hstage : (r.rename f).instrumentStage = r.instrumentStage := rfl
  simp only [stages, hstage, hpaths, List.map_append, hinstrument, List.map_flatMap]

end Rig

/-! ## The states of the stages -/

namespace ChainBlock

theorem candidateNames_rename (f : Renaming) (stage : ChainBlock) :
    (stage.rename f).candidateNames = stage.candidateNames := by
  obtain ⟨id, block⟩ := stage
  cases id <;> rfl

theorem category_rename (f : Renaming) (stage : ChainBlock) :
    (stage.rename f).category = stage.category := by
  obtain ⟨id, block⟩ := stage
  cases id <;> rfl

theorem displayName_rename (f : Renaming) (stage : ChainBlock) :
    (stage.rename f).displayName = stage.displayName := by
  obtain ⟨id, block⟩ := stage
  cases id <;> rfl

theorem withSelectedInstrument_rename (f : Renaming) (stage : ChainBlock) (r : Rig ν)
    (snapshot : Option Snapshot) :
    (stage.rename f).withSelectedInstrument (r.rename f) (snapshot.map (·.rename f)) =
      (stage.withSelectedInstrument r snapshot).rename f := by
  have hselected : ∀ base,
      selectedInstrument base (snapshot.map (·.rename f)) = selectedInstrument base snapshot := by
    intro base
    cases snapshot <;> rfl
  have hrig : (r.rename f).instrument = r.instrument := rfl
  obtain ⟨id, block⟩ := stage
  cases id with
  | onPath path key => rfl
  | instrument =>
      unfold withSelectedInstrument
      rw [hrig]
      cases r.instrument with
      | none => rfl
      | some base => exact congrArg Instrument.toChainBlock (hselected base)

variable {f : Renaming} (hf : ∀ path, Function.Injective (f path))
include hf

theorem selectedState_rename (stage : ChainBlock) (matcher : Matcher)
    (snapshot : Option Snapshot) :
    (stage.rename f).selectedState matcher (snapshot.map (·.rename f)) =
      stage.selectedState matcher snapshot := by
  obtain ⟨id, block⟩ := stage
  cases snapshot with
  | none => cases id <;> rfl
  | some s =>
      cases id with
      | instrument => rfl
      | onPath path key =>
          have hswitch := s.blockEnabled?_rename hf path key
          have hpresent : (s.rename f).blocks.isSome = s.blocks.isSome := Option.isSome_map
          have hhint : (s.rename f).hint = s.hint := rfl
          have hnames := candidateNames_rename f ⟨.onPath path key, block⟩
          simp only [rename, BlockId.rename] at hnames
          simp only [rename, BlockId.rename, selectedState, Option.map_some, hswitch, hpresent,
            hhint, hnames]

theorem selectedParams_rename (stage : ChainBlock) (snapshot : Option Snapshot) :
    (stage.rename f).selectedParams (snapshot.map (·.rename f)) =
      stage.selectedParams snapshot := by
  obtain ⟨id, block⟩ := stage
  cases snapshot with
  | none => cases id <;> rfl
  | some s =>
      cases id with
      | instrument => rfl
      | onPath path key =>
          simp only [rename, BlockId.rename, selectedParams, Option.map_some,
            s.paramValue?_rename hf path key]

theorem controlledParams_rename (stage : ChainBlock) (controllers : ControllerTable) :
    (stage.rename f).controlledParams (controllers.rename f) =
      stage.controlledParams controllers := by
  obtain ⟨id, block⟩ := stage
  cases id with
  | instrument => rfl
  | onPath path key =>
      have hblock : (controllers.rename f).block? path (f path key) =
          controllers.block? path key :=
        PerPath.get?_rename hf controllers.blocks path key
      simp only [rename, BlockId.rename, controlledParams, assignments, hblock]

end ChainBlock

/-- Membership is a matter of hints, which know no keys. -/
theorem activeSnapshots_rename (f : Renaming) (matcher : Matcher) (names : List String)
    (snapshots : List Snapshot) :
    activeSnapshots matcher names (snapshots.map (·.rename f)) =
      activeSnapshots matcher names snapshots :=
  activeSnapshots_map (·.rename f) (fun _ => rfl) (fun _ => rfl) snapshots

namespace Rig

variable [Amount ν] {f : Renaming} (hf : ∀ path, Function.Injective (f path))
include hf

theorem resolveBlock_rename (r : Rig ν) (matcher : Matcher) (snapshot : Option Snapshot)
    (stage : ChainBlock) :
    (r.rename f).resolveBlock matcher (snapshot.map (·.rename f)) (stage.rename f) =
      (r.resolveBlock matcher snapshot stage).rename f := by
  have hhint : (snapshot.map (·.rename f)).bind (·.hint) = snapshot.bind (·.hint) := by
    cases snapshot <;> rfl
  have hcontrolled := ChainBlock.controlledParams_rename hf stage r.controllers
  have hactive : ∀ names,
      activeSnapshots matcher names (r.rename f).snapshots =
        activeSnapshots matcher names r.snapshots :=
    fun names => activeSnapshots_rename f matcher names r.snapshots
  have hcontrollers : (r.rename f).controllers = r.controllers.rename f := rfl
  have hcosts : (r.rename f).costs = r.costs := rfl
  have hblock : (stage.rename f).block = stage.block := rfl
  have hid : (stage.rename f).id = stage.id.rename f := rfl
  simp only [resolveBlock, ResolvedBlock.rename, hhint, hcontrollers, hcontrolled, hactive,
    hcosts, hblock, hid, stage.candidateNames_rename f, stage.displayName_rename f,
    stage.category_rename f, stage.selectedState_rename hf, stage.selectedParams_rename hf,
    Option.isSome_map]

theorem resolveChain_rename (r : Rig ν) (matcher : Matcher) (chain : List ChainBlock)
    (index : Nat) :
    (r.rename f).resolveChain matcher (chain.map (ChainBlock.rename f)) index =
      (r.resolveChain matcher chain index).rename f := by
  have hsummary : ((r.snapshot? index).map (·.rename f)).map
        (fun s => (⟨index, s.name⟩ : SnapshotSummary)) =
      (r.snapshot? index).map (fun s => ⟨index, s.name⟩) := by
    cases r.snapshot? index <;> rfl
  simp only [resolveChain, ResolvedChain.rename, snapshot?_rename, hsummary, List.map_map,
    Function.comp_def, ChainBlock.withSelectedInstrument_rename, resolveBlock_rename hf]

end Rig

/-! ## The budget -/

namespace Budget

variable [Amount ν] {f : Renaming} (hf : ∀ path, Function.Injective (f path))
include hf

theorem rename_charge (b : Budget ν) (id : BlockId) (cost : ν) :
    (b.charge id cost).rename f = (b.rename f).charge (id.rename f) cost := by
  have hid := BlockId.rename_injective hf
  simp only [charge, rename, addCost, Table.mapKeys_insert hid, Table.get?_mapKeys hid]

theorem ofBlocks_rename (costs : CostTable ν) (blocks : List (ResolvedBlock ν)) :
    ofBlocks costs (blocks.map (·.rename f)) = (ofBlocks costs blocks).rename f := by
  unfold ofBlocks
  rw [List.foldl_map]
  -- A budget of no blocks has no ids to rename.
  change blocks.foldl _ ((empty : Budget ν).rename f) = _
  apply List.foldl_hom (rename f)
  intro b block
  exact (rename_charge hf b block.id _).symm

end Budget

/-! ## The warnings -/

theorem Warning.rename_injective {f : Renaming} (hf : ∀ path, Function.Injective (f path)) :
    Function.Injective (rename f : Warning ν → Warning ν) := by
  intro a b h
  cases a <;> cases b <;> simp only [rename, reduceCtorEq] at h
  case duplicatePosition.duplicatePosition =>
    obtain ⟨rfl, rfl, hkeys⟩ := Warning.duplicatePosition.inj h
    rw [List.map_injective_iff.2 (hf _) hkeys]
  case unknownSnapshotBlock.unknownSnapshotBlock =>
    obtain ⟨rfl, rfl, hkey⟩ := Warning.unknownSnapshotBlock.inj h
    rw [hf _ hkey]
  case unknownControllerBlock.unknownControllerBlock =>
    obtain ⟨rfl, hkey⟩ := Warning.unknownControllerBlock.inj h
    rw [hf _ hkey]
  case invalidCost.invalidCost => exact h

namespace Snapshot

variable {f : Renaming} (hf : ∀ path, Function.Injective (f path))
include hf

theorem names_rename_iff {s : Snapshot} {path : DspPath} {key : String} :
    (s.rename f).Names path key ↔ ∃ k, f path k = key ∧ s.Names path k := by
  have htable : ∀ {α : Type} (m : Option (PerPath α)),
      (∃ entries, m.map (·.rename f) = some entries ∧ (entries.get? path key).isSome) ↔
        ∃ k, f path k = key ∧ ∃ entries, m = some entries ∧ (entries.get? path k).isSome := by
    intro α m
    cases m with
    | none => simp
    | some entries =>
        simpa using PerPath.isSome_get?_rename_iff hf
  unfold Names rename
  rw [htable, htable, ← exists_or]
  exact exists_congr fun k => and_or_left.symm

end Snapshot

namespace Rig

variable {f : Renaming} (hf : ∀ path, Function.Injective (f path))
include hf

theorem snapshotWarnings_rename (r : Rig ν) (s : Snapshot) :
    ((r.rename f).snapshotWarnings (s.rename f)).Perm
      ((r.snapshotWarnings s).map (Warning.rename f)) := by
  have hold := r.reportsSnapshot s
  have hnew := (r.rename f).reportsSnapshot (s.rename f)
  have hmapped := hold.nodup.map (Warning.rename_injective hf)
  refine (List.perm_ext_iff_of_nodup hnew.nodup hmapped).2 fun warning => ?_
  rw [hnew.mem_iff, List.mem_map]
  constructor
  · intro hwarning
    obtain ⟨path, key, rfl, hnames, hmissing⟩ := hwarning
    obtain ⟨k, rfl, hk⟩ := (Snapshot.names_rename_iff hf).1 hnames
    rw [block?_rename hf] at hmissing
    exact ⟨.unknownSnapshotBlock s.name path k,
      (hold.mem_iff _).2 ⟨path, k, rfl, hk, hmissing⟩, rfl⟩
  · intro hwarning
    obtain ⟨old, hmem, rfl⟩ := hwarning
    obtain ⟨path, k, rfl, hnames, hmissing⟩ := (hold.mem_iff old).1 hmem
    refine ⟨path, f path k, rfl, (Snapshot.names_rename_iff hf).2 ⟨k, rfl, hnames⟩, ?_⟩
    rw [block?_rename hf, hmissing]

theorem controllerWarnings_rename (r : Rig ν) :
    (r.rename f).controllerWarnings.Perm (r.controllerWarnings.map (Warning.rename f)) := by
  have hold := r.reportsControllers
  have hnew := (r.rename f).reportsControllers
  have hnodup : ∀ {q : Rig ν}, q.ReportsControllers q.controllerWarnings →
      q.controllerWarnings.Nodup := by
    intro q hq
    refine hq.ordered.imp_of_mem ?_
    intro a b ha _ hprecedes heq
    obtain ⟨path, key, rfl, -⟩ := (hq.mem_iff a).1 ha
    subst heq
    obtain hpath | ⟨-, hkey⟩ := hprecedes
    · exact Nat.lt_irrefl _ hpath
    · exact List.lt_irrefl _ hkey
  have hmapped := (hnodup hold).map (Warning.rename_injective hf)
  have hnamed : ∀ path key, ((r.rename f).controllers.block? path key).isSome ↔
      ∃ k, f path k = key ∧ (r.controllers.block? path k).isSome :=
    fun path key => PerPath.isSome_get?_rename_iff hf
  refine (List.perm_ext_iff_of_nodup (hnodup hnew) hmapped).2 fun warning => ?_
  rw [hnew.mem_iff, List.mem_map]
  constructor
  · intro hwarning
    obtain ⟨path, key, rfl, hnames, hmissing⟩ := hwarning
    obtain ⟨k, rfl, hk⟩ := (hnamed path key).1 hnames
    rw [block?_rename hf] at hmissing
    exact ⟨.unknownControllerBlock path k,
      (hold.mem_iff _).2 ⟨path, k, rfl, hk, hmissing⟩, rfl⟩
  · intro hwarning
    obtain ⟨old, hmem, rfl⟩ := hwarning
    obtain ⟨path, k, rfl, hnames, hmissing⟩ := (hold.mem_iff old).1 hmem
    refine ⟨path, f path k, rfl, (hnamed path (f path k)).2 ⟨k, rfl, hnames⟩, ?_⟩
    rw [block?_rename hf, hmissing]

/-- The report says the same of the blocks under their new keys, in the order of those. -/
theorem warnings_rename [Amount ν] {r : Rig ν} (h : r.DistinctPositions) :
    (r.rename f).warnings.Perm (r.warnings.map (Warning.rename f)) := by
  have hold : DspPath.all.flatMap r.positionWarnings = [] :=
    (positions_eq_nil_iff r.reportsPositions).2 h
  have hnew : DspPath.all.flatMap (r.rename f).positionWarnings = [] :=
    (positions_eq_nil_iff (r.rename f).reportsPositions).2 (h.rename hf)
  have hsnapshots : ((r.rename f).snapshots.flatMap (r.rename f).snapshotWarnings).Perm
      ((r.snapshots.flatMap r.snapshotWarnings).map (Warning.rename f)) := by
    rw [List.map_flatMap]
    change ((r.snapshots.map (·.rename f)).flatMap (r.rename f).snapshotWarnings).Perm _
    rw [List.flatMap_map]
    exact List.Perm.flatMap_left r.snapshots fun s _ => snapshotWarnings_rename hf r s
  have hcosts : r.costWarnings.map (Warning.rename f) = (r.rename f).costWarnings := by
    unfold costWarnings
    rw [List.map_map]
    rfl
  unfold warnings
  rw [hold, hnew, List.nil_append, List.nil_append, List.map_append, List.map_append, hcosts]
  exact (hsnapshots.append (controllerWarnings_rename hf r)).append_right _

end Rig

/-! ## The whole view -/

/--
A rig that is not warned of a shared position has, with its blocks under other
keys, the same view under each index: the chain and the charges are the same up
to the ids, the total and the level are the same, and the warnings are about the
same blocks.
-/
theorem keys_opaque [Amount ν] (e : Engine ν) (r : Rig ν) (f : Renaming)
    (hf : ∀ path, Function.Injective (f path)) {warnings : List (Warning ν)}
    (hvalid : r.validate = .ok warnings)
    (hpositions : ∀ path position keys, .duplicatePosition path position keys ∉ warnings)
    (index : Nat) :
    ∃ v w, e.resolve r index = .ok v ∧ e.resolve (r.rename f) index = .ok w ∧
      w.chain = v.chain.rename f ∧ w.budget = v.budget.rename f ∧ w.level = v.level ∧
      w.warnings.Perm (v.warnings.map (Warning.rename f)) := by
  have hpath : r.HasPath := by
    by_contra hnone
    rw [Rig.validate_of_not_hasPath hnone] at hvalid
    cases hvalid
  have hwarnings : r.warnings = warnings := by
    rw [Rig.validate_of_hasPath hpath] at hvalid
    exact Except.ok.inj hvalid
  have hdistinct : r.DistinctPositions := by
    refine (Rig.positions_eq_nil_iff r.reportsPositions).1 ?_
    rw [List.eq_nil_iff_forall_not_mem]
    intro warning hmem
    obtain ⟨path, position, keys, rfl, -⟩ := (r.reportsPositions.mem_iff warning).1 hmem
    refine hpositions path position keys ?_
    rw [← hwarnings]
    exact List.mem_append_left _ (List.mem_append_left _ (List.mem_append_left _ hmem))
  have hchain : (e.view (r.rename f) index).chain = (e.view r index).chain.rename f := by
    rw [e.chain_view, e.chain_view, Rig.stages_rename hf hdistinct, Rig.resolveChain_rename hf]
  have hbudget : (e.view (r.rename f) index).budget = (e.view r index).budget.rename f := by
    change (Budget.ofBlocks r.costs (e.view (r.rename f) index).chain.blocks).withCeiling
      e.ceiling = _
    rw [hchain]
    change (Budget.ofBlocks r.costs
      ((e.view r index).chain.blocks.map (·.rename f))).withCeiling e.ceiling = _
    rw [Budget.ofBlocks_rename hf]
    rfl
  refine ⟨e.view r index, e.view (r.rename f) index, e.resolve_of_hasPath hpath index,
    e.resolve_of_hasPath (r.hasPath_rename f hpath) index, hchain, hbudget, ?_,
    Rig.warnings_rename hf hdistinct⟩
  rw [e.level_view, e.level_view, hbudget]
  rfl

/-- Two blocks whose keys are not in the order of their positions, one switched by a snapshot. -/
def crossedRig : Rig Float :=
  { (Rig.empty : Rig Float) with
    path0 := some (Table.ofList
      [("a", { Block.ofModel "HD2_ReverbPlate" with position := 2 }),
        ("b", { Block.ofModel "BassBoost" with position := 1 })])
    snapshots := [(Snapshot.ofName "Dry").withBlockEnabled .path0 "a" false]
    costs := Table.ofList [("BassBoost", 5.0), ("HD2_ReverbPlate", 30.0)] }

/-- Each of the two keys for the other. -/
def exchangedKeys : Renaming :=
  fun _ => Equiv.swap "a" "b"

theorem keys_opaque_crossedRig :
    (∀ path, Function.Injective (exchangedKeys path)) ∧ crossedRig.validate = .ok [] ∧
      ∃ v w, Engine.standard.resolve crossedRig 0 = .ok v ∧
        Engine.standard.resolve (crossedRig.rename exchangedKeys) 0 = .ok w ∧
        w.chain = v.chain.rename exchangedKeys ∧ w.budget = v.budget.rename exchangedKeys ∧
        w.level = v.level ∧ w.warnings.Perm (v.warnings.map (Warning.rename exchangedKeys)) := by
  have hkeys : ∀ path, Function.Injective (exchangedKeys path) :=
    fun _ => (Equiv.swap "a" "b").injective
  have hvalid : crossedRig.validate = .ok [] := rfl
  exact ⟨hkeys, hvalid,
    keys_opaque Engine.standard crossedRig exchangedKeys hkeys hvalid (fun _ _ _ => by simp) 0⟩

end SignalChain
