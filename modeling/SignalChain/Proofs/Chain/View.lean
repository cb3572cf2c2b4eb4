import SignalChain.Chain.View
import SignalChain.Proofs.Chain.Resolution

/-!
# When a rig has a view, and what is in it

Validation, assembly and resolution fail together: exactly on a rig without any
path.  Every other rig has a view under every index, and a path that is missing
changes nothing in it compared with a path without blocks.
-/

namespace SignalChain

variable {ν : Type} [Amount ν]

/-! ## Success and failure -/

namespace Rig

theorem validate_of_hasPath {r : Rig ν} (h : r.HasPath) : r.validate = .ok r.warnings := by
  unfold validate
  rw [checkStructure_of_hasPath h]
  rfl

theorem validate_of_not_hasPath {r : Rig ν} (h : ¬ r.HasPath) :
    r.validate = .error .noPath := by
  unfold validate
  rw [checkStructure_of_not_hasPath h]
  rfl

end Rig

namespace Engine

/-- The view of a rig that has a path. -/
def view (e : Engine ν) (r : Rig ν) (index : Nat) : View ν :=
  e.viewOf r r.stages r.warnings index

theorem resolve_of_hasPath (e : Engine ν) {r : Rig ν} (h : r.HasPath) (index : Nat) :
    e.resolve r index = .ok (e.view r index) := by
  unfold resolve
  rw [Rig.validate_of_hasPath h, Rig.assemble_of_hasPath h]
  rfl

theorem resolve_of_not_hasPath (e : Engine ν) {r : Rig ν} (h : ¬ r.HasPath) (index : Nat) :
    e.resolve r index = .error (.malformed .noPath) := by
  unfold resolve
  rw [Rig.validate_of_not_hasPath h]
  rfl

theorem resolve_eq_error_iff (e : Engine ν) (r : Rig ν) (index : Nat) :
    e.resolve r index = .error (.malformed .noPath) ↔ ¬ r.HasPath := by
  constructor
  · intro herror h
    rw [e.resolve_of_hasPath h] at herror
    cases herror
  · intro h
    exact e.resolve_of_not_hasPath h index

/-! ## The chain of a view -/

theorem chain_view (e : Engine ν) (r : Rig ν) (index : Nat) :
    (e.view r index).chain = r.resolveChain e.matcher r.stages index :=
  rfl

theorem ids_view (e : Engine ν) (r : Rig ν) (index : Nat) :
    (e.view r index).chain.blocks.map (·.id) = r.stages.map (·.id) :=
  r.ids_resolveChain e.matcher r.stages index

theorem get?_view_onPath (e : Engine ν) (r : Rig ν) (index : Nat) (path : DspPath)
    (key : String) :
    (e.view r index).chain.get? (.onPath path key) =
      (r.block? path key).map (fun block =>
        r.resolveBlock e.matcher (r.snapshot? index) ⟨.onPath path key, block⟩) :=
  r.get?_resolveChain_onPath e.matcher index path key

theorem get?_view_instrument (e : Engine ν) (r : Rig ν) (index : Nat) :
    (e.view r index).chain.get? .instrument =
      r.usedInstrument?.map (fun base =>
        r.resolveBlock e.matcher (r.snapshot? index)
          (selectedInstrument base (r.snapshot? index)).toChainBlock) :=
  r.get?_resolveChain_instrument e.matcher index

theorem ids_view_nodup (e : Engine ν) (r : Rig ν) (index : Nat) :
    ((e.view r index).chain.blocks.map (·.id)).Nodup :=
  r.resolveChain_ids_nodup e.matcher index

/-- A stage of a view is the instrument in use or a stored block. -/
theorem mem_blocks_view_iff (e : Engine ν) (r : Rig ν) (index : Nat) {b : ResolvedBlock ν} :
    b ∈ (e.view r index).chain.blocks ↔
      (∃ base, r.usedInstrument? = some base ∧
        b = r.resolveBlock e.matcher (r.snapshot? index)
          (selectedInstrument base (r.snapshot? index)).toChainBlock) ∨
      ∃ path key block, r.block? path key = some block ∧
        b = r.resolveBlock e.matcher (r.snapshot? index) ⟨.onPath path key, block⟩ := by
  rw [e.chain_view, Rig.blocks_resolveChain_stages, List.mem_append, List.mem_map, List.mem_map]
  simp only [Option.mem_toList, Rig.mem_blockStages_iff]
  constructor
  · rintro (⟨base, hbase, rfl⟩ | ⟨stage, ⟨path, key, block, hget, rfl⟩, rfl⟩)
    · exact Or.inl ⟨base, hbase, rfl⟩
    · exact Or.inr ⟨path, key, block, hget, rfl⟩
  · rintro (⟨base, hbase, rfl⟩ | ⟨path, key, block, hget, rfl⟩)
    · exact Or.inl ⟨base, hbase, rfl⟩
    · exact Or.inr ⟨_, ⟨path, key, block, hget, rfl⟩, rfl⟩

end Engine

/-! ## A missing path -/

namespace Rig

omit [Amount ν] in
theorem positionWarnings_withPath_empty {r : Rig ν} {path : DspPath} (h : r.path? path = none) :
    (r.withPath path Table.empty).positionWarnings = r.positionWarnings := by
  funext other
  cases path <;> cases other <;>
    simp_all [positionWarnings, path?, withPath, keysByPosition]

theorem warnings_withPath_empty {r : Rig ν} {path : DspPath} (h : r.path? path = none) :
    (r.withPath path Table.empty).warnings = r.warnings := by
  have hpositions := positionWarnings_withPath_empty h
  have hblock : (r.withPath path Table.empty).hasBlock = r.hasBlock := by
    funext target
    rw [hasBlock, block?_withPath_empty h]
    rfl
  have hsnapshot : (r.withPath path Table.empty).snapshotWarnings = r.snapshotWarnings := by
    funext s
    rw [snapshotWarnings, hblock]
    rfl
  simp only [warnings, controllerWarnings, costWarnings, hpositions, hsnapshot, hblock,
    snapshots_withPath, controllers_withPath, costs_withPath]

theorem resolveChain_withPath (r : Rig ν) (path : DspPath) (blocks : Table String Block) :
    (r.withPath path blocks).resolveChain = r.resolveChain := by
  cases path <;> rfl

end Rig

theorem Engine.view_withPath_empty (e : Engine ν) {r : Rig ν} {path : DspPath}
    (h : r.path? path = none) :
    e.view (r.withPath path Table.empty) = e.view r := by
  funext index
  simp only [view, viewOf, Rig.stages_withPath_empty h, Rig.warnings_withPath_empty h,
    Rig.resolveChain_withPath, Rig.costs_withPath]

/-! ## The chain, complete and in order -/

/--
Assembly and resolution fail together, on the rigs without a path.  Any other
rig has a chain that lists its blocks once and in order after the instrument,
its views keep the ids of that chain and find exactly the stored blocks, and a
missing path counts as an empty one.
-/
theorem assembly_exact (r : Rig ν) :
    (r.assemble = .error .noPath ↔ r.path0 = none ∧ r.path1 = none) ∧
    (∀ (e : Engine ν) (index : Nat),
      e.resolve r index = .error (.malformed .noPath) ↔ r.path0 = none ∧ r.path1 = none) ∧
    (r.HasPath → ∃ chain, r.assemble = .ok chain ∧ r.IsChain chain ∧
      ∀ (e : Engine ν) (index : Nat), ∃ view, e.resolve r index = .ok view ∧
        view.chain.blocks.map (·.id) = chain.map (·.id) ∧
        ∀ path key,
          (view.chain.get? (.onPath path key)).isSome ↔ (r.block? path key).isSome) ∧
    (r.HasPath → ∀ path, r.path? path = none →
      (r.withPath path Table.empty).assemble = r.assemble ∧
      (r.withPath path Table.empty).validate = r.validate ∧
      ∀ (e : Engine ν) (index : Nat),
        e.resolve (r.withPath path Table.empty) index = e.resolve r index) := by
  refine ⟨?_, ?_, ?_, ?_⟩
  · rw [← Rig.not_hasPath_iff]
    constructor
    · intro herror h
      rw [Rig.assemble_of_hasPath h] at herror
      cases herror
    · exact Rig.assemble_of_not_hasPath
  · intro e index
    rw [← Rig.not_hasPath_iff]
    exact e.resolve_eq_error_iff r index
  · intro h
    refine ⟨r.stages, Rig.assemble_of_hasPath h, r.stages_isChain, ?_⟩
    intro e index
    refine ⟨e.view r index, e.resolve_of_hasPath h index, e.ids_view r index, ?_⟩
    intro path key
    rw [e.get?_view_onPath, Option.isSome_map]
  · intro h path hpath
    have hfilled := r.hasPath_withPath path Table.empty
    refine ⟨?_, ?_, ?_⟩
    · rw [Rig.assemble_of_hasPath h, Rig.assemble_of_hasPath hfilled,
        Rig.stages_withPath_empty hpath]
    · rw [Rig.validate_of_hasPath h, Rig.validate_of_hasPath hfilled,
        Rig.warnings_withPath_empty hpath]
    · intro e index
      rw [e.resolve_of_hasPath h, e.resolve_of_hasPath hfilled, e.view_withPath_empty hpath]

/-- Only a second path, with a negative position and a position that two blocks share. -/
def oneSidedRig : Rig Float :=
  { (Rig.empty : Rig Float) with
    path1 := some (Table.ofList
      [("b", { Block.ofModel "HD2_DelaySimple" with position := 3 }),
        ("a", { Block.ofModel "HD2_ReverbPlate" with position := 3 }),
        ("z", { Block.ofModel "BassBoost" with position := -1 })]) }

example :
    oneSidedRig.stages.map (·.id) =
      [.onPath .path1 "z", .onPath .path1 "a", .onPath .path1 "b"] := by
  cbv

theorem assembly_exact_oneSided :
    oneSidedRig.HasPath ∧ oneSidedRig.path? .path0 = none ∧
      (∃ chain, oneSidedRig.assemble = .ok chain ∧ oneSidedRig.IsChain chain) ∧
      (oneSidedRig.withPath .path0 Table.empty).assemble = oneSidedRig.assemble := by
  have hpath : oneSidedRig.HasPath := Or.inr rfl
  obtain ⟨-, -, hchain, hmissing⟩ := assembly_exact oneSidedRig
  obtain ⟨chain, hok, hexact, -⟩ := hchain hpath
  exact ⟨hpath, rfl, ⟨chain, hok, hexact⟩, (hmissing hpath .path0 rfl).1⟩

end SignalChain
