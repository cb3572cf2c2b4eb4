import SignalChain.Proofs.Rig.Basic
import SignalChain.Proofs.Table
import SignalChain.Rig.Validation

/-!
# Which snapshots are warned of

A snapshot gets a warning for each block that its own data name and the rig does
not store.  The data are walked as a list without repetitions, so a block is
named exactly when one of the two tables of the snapshot has an entry for it.
-/

namespace SignalChain

/-! ## Entries by path -/

instance : LawfulBEq DspPath where
  eq_of_beq {p q} h := by
    cases p <;> cases q <;> first | rfl | cases h
  rfl {p} := by
    cases p <;> rfl

namespace PerPath

theorem mem_toList_iff {α : Type} {m : PerPath α} {path : DspPath} {key : String} {value : α} :
    (path, key, value) ∈ m.toList ↔ m.get? path key = some value := by
  rw [get?, ← Table.mem_toList_iff]
  cases path <;> simp [toList, DspPath.all]

theorem mem_targets_iff {α : Type} {m : PerPath α} {path : DspPath} {key : String} :
    (path, key) ∈ m.toList.map (fun entry => (entry.1, entry.2.1)) ↔
      (m.get? path key).isSome := by
  rw [Option.isSome_iff_exists]
  constructor
  · intro hmem
    obtain ⟨⟨p, k, value⟩, hentry, heq⟩ := List.mem_map.1 hmem
    obtain ⟨rfl, rfl⟩ := Prod.mk.inj heq
    exact ⟨value, mem_toList_iff.1 hentry⟩
  · rintro ⟨value, hget⟩
    exact List.mem_map.2 ⟨(path, key, value), mem_toList_iff.2 hget, rfl⟩

end PerPath

/-! ## Blocks that a snapshot names -/

/-- One of the device's two tables of a snapshot has an entry for a block. -/
def Snapshot.Names (s : Snapshot) (path : DspPath) (key : String) : Prop :=
  (∃ switches, s.blocks = some switches ∧ (switches.get? path key).isSome) ∨
    ∃ values, s.params = some values ∧ (values.get? path key).isSome

namespace Rig

variable {ν : Type}

theorem get?_getD_empty_isSome {α : Type} {m : Option (PerPath α)} {path : DspPath}
    {key : String} :
    ((m.getD PerPath.empty).get? path key).isSome ↔
      ∃ entries, m = some entries ∧ (entries.get? path key).isSome := by
  cases m with
  | none =>
      cases path <;> simp [PerPath.get?, PerPath.onPath, PerPath.empty]
  | some entries =>
      simp

theorem mem_snapshotTargets_iff {s : Snapshot} {path : DspPath} {key : String} :
    (path, key) ∈ snapshotTargets s ↔ s.Names path key := by
  unfold snapshotTargets Snapshot.Names
  rw [List.mem_append, PerPath.mem_targets_iff, PerPath.mem_targets_iff,
    get?_getD_empty_isSome, get?_getD_empty_isSome]

theorem mem_snapshotWarnings_iff {r : Rig ν} {s : Snapshot} {name : String} {path : DspPath}
    {key : String} :
    .unknownSnapshotBlock name path key ∈ r.snapshotWarnings s ↔
      s.name = name ∧ s.Names path key ∧ r.block? path key = none := by
  have hmissing : (!r.hasBlock (path, key)) = true ↔ r.block? path key = none := by
    simp [hasBlock]
  unfold snapshotWarnings
  rw [List.mem_map]
  constructor
  · rintro ⟨⟨p, k⟩, hmem, heq⟩
    obtain ⟨rfl, rfl, rfl⟩ := Warning.unknownSnapshotBlock.inj heq
    obtain ⟨htarget, hfilter⟩ := List.mem_filter.1 (List.mem_eraseDups.1 hmem)
    exact ⟨rfl, mem_snapshotTargets_iff.1 htarget, hmissing.1 hfilter⟩
  · rintro ⟨rfl, hnames, hnone⟩
    refine ⟨(path, key), List.mem_eraseDups.2 (List.mem_filter.2 ⟨?_, hmissing.2 hnone⟩), rfl⟩
    exact mem_snapshotTargets_iff.2 hnames

/-- A warning of an unknown block tells of a snapshot that names it, and of no stored block. -/
theorem unknownSnapshotBlock_mem_warnings_iff [Amount ν] {r : Rig ν} {name : String}
    {path : DspPath} {key : String} :
    .unknownSnapshotBlock name path key ∈ r.warnings ↔
      r.block? path key = none ∧ ∃ s ∈ r.snapshots, s.name = name ∧ s.Names path key := by
  have hpositions : ∀ other : DspPath,
      Warning.unknownSnapshotBlock name path key ∉ r.positionWarnings other := by
    intro other
    unfold positionWarnings
    cases r.path? other <;> simp
  simp only [warnings, List.mem_append, List.mem_flatMap, hpositions, and_false, exists_false,
    false_or, mem_snapshotWarnings_iff]
  simp only [controllerWarnings, costWarnings, List.mem_map, reduceCtorEq, and_false,
    exists_false, or_false]
  constructor
  · rintro ⟨s, hs, hname, hnames, hnone⟩
    exact ⟨hnone, s, hs, hname, hnames⟩
  · rintro ⟨hnone, s, hs, hname, hnames⟩
    exact ⟨s, hs, hname, hnames, hnone⟩

/-- A change of a snapshot that leaves its own warnings leaves all. -/
theorem warnings_modifySnapshot [Amount ν] (r : Rig ν) (index : Nat) {f : Snapshot → Snapshot}
    (h : ∀ s, r.snapshotWarnings (f s) = r.snapshotWarnings s) :
    (r.modifySnapshot index f).warnings = r.warnings := by
  have hfound : (r.modifySnapshot index f).snapshots.flatMap r.snapshotWarnings =
      r.snapshots.flatMap r.snapshotWarnings := by
    rw [List.flatMap_def, List.flatMap_def, r.map_snapshots_modifySnapshot h index]
  exact congrArg (fun found => DspPath.all.flatMap r.positionWarnings ++ found ++
    r.controllerWarnings ++ r.costWarnings) hfound

end Rig

end SignalChain
