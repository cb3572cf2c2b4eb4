import SignalChain.Rig.Basic

/-!
# Changes of a rig and what they leave alone

A rig is valid when it has a path.  Replacing the blocks of a path leaves the
other parts of the rig as they are, and changing a snapshot is seen at its own
index.  Two rigs are on the same device when they differ in no more than their
names and snapshots.
-/

namespace SignalChain

namespace Rig

variable {ν : Type}

/-! ## Rigs with a path -/

/-- Whether a rig has a path, which is all that it takes to have a chain. -/
def HasPath (r : Rig ν) : Prop :=
  r.path0.isSome ∨ r.path1.isSome

instance (r : Rig ν) : Decidable r.HasPath :=
  inferInstanceAs (Decidable (_ ∨ _))

theorem not_hasPath_iff {r : Rig ν} : ¬ r.HasPath ↔ r.path0 = none ∧ r.path1 = none := by
  simp [HasPath]

theorem hasPath_withPath (r : Rig ν) (path : DspPath) (blocks : Table String Block) :
    (r.withPath path blocks).HasPath := by
  cases path <;> simp [HasPath, withPath]

/-! ## Replacing a path -/

@[simp] theorem controllers_withPath (r : Rig ν) (path : DspPath)
    (blocks : Table String Block) : (r.withPath path blocks).controllers = r.controllers := by
  cases path <;> rfl

@[simp] theorem snapshots_withPath (r : Rig ν) (path : DspPath)
    (blocks : Table String Block) : (r.withPath path blocks).snapshots = r.snapshots := by
  cases path <;> rfl

@[simp] theorem instrument_withPath (r : Rig ν) (path : DspPath)
    (blocks : Table String Block) : (r.withPath path blocks).instrument = r.instrument := by
  cases path <;> rfl

@[simp] theorem costs_withPath (r : Rig ν) (path : DspPath)
    (blocks : Table String Block) : (r.withPath path blocks).costs = r.costs := by
  cases path <;> rfl

theorem path?_withPath (r : Rig ν) (path other : DspPath) (blocks : Table String Block) :
    (r.withPath path blocks).path? other = if other = path then some blocks else r.path? other := by
  cases path <;> cases other <;> rfl

theorem block?_withPath (r : Rig ν) (path other : DspPath) (blocks : Table String Block)
    (name : String) :
    (r.withPath path blocks).block? other name =
      if other = path then blocks.get? name else r.block? other name := by
  unfold block?
  rw [path?_withPath]
  split <;> rfl

theorem block?_withBlock (r : Rig ν) (path other : DspPath) (key name : String) (block : Block) :
    (r.withBlock path key block).block? other name =
      if other = path ∧ name = key then some block else r.block? other name := by
  unfold withBlock
  rw [block?_withPath, Table.get?_insert]
  by_cases hpath : other = path
  · subst hpath
    by_cases hkey : name = key
    · simp [hkey]
    · rw [if_pos rfl, if_neg hkey, if_neg (fun h => hkey h.2), block?]
      cases r.path? other <;> rfl
  · rw [if_neg hpath, if_neg (fun h => hpath h.1)]

theorem block?_withPath_empty {r : Rig ν} {path : DspPath} (h : r.path? path = none) :
    (r.withPath path Table.empty).block? = r.block? := by
  funext other key
  cases path <;> cases other <;> simp_all [block?, path?, withPath]

/-! ## Snapshots -/

theorem snapshot?_eq_none_iff {r : Rig ν} {index : Nat} :
    r.snapshot? index = none ↔ r.snapshots.length ≤ index :=
  List.getElem?_eq_none_iff

theorem snapshot?_modifySnapshot (r : Rig ν) (index : Nat) (f : Snapshot → Snapshot) :
    (r.modifySnapshot index f).snapshot? index = (r.snapshot? index).map f := by
  simp [modifySnapshot, snapshot?]

theorem snapshot?_withSnapshot (r : Rig ν) (s : Snapshot) (index : Nat) :
    (r.withSnapshot s).snapshot? index =
      if index = r.snapshots.length then some s else r.snapshot? index := by
  unfold withSnapshot snapshot?
  rw [List.getElem?_append]
  by_cases hnew : index = r.snapshots.length
  · simp [hnew]
  · rw [if_neg hnew]
    split
    · rfl
    · next hle =>
        have hbeyond : r.snapshots.length < index := by omega
        rw [List.getElem?_eq_none (Nat.le_of_lt hbeyond)]
        exact List.getElem?_eq_none (by simp; omega)

theorem snapshot?_modifySnapshot_of_ne (r : Rig ν) {index other : Nat} (h : other ≠ index)
    (f : Snapshot → Snapshot) : (r.modifySnapshot index f).snapshot? other = r.snapshot? other := by
  simp [modifySnapshot, snapshot?, h.symm]

/-- What a change of a snapshot does not touch is the same all along the snapshots. -/
theorem map_snapshots_modifySnapshot {α : Type} {f : Snapshot → Snapshot} {g : Snapshot → α}
    (h : ∀ s, g (f s) = g s) (r : Rig ν) (index : Nat) :
    (r.modifySnapshot index f).snapshots.map g = r.snapshots.map g := by
  refine List.ext_getElem? fun k => ?_
  simp only [modifySnapshot, List.getElem?_map, List.getElem?_modify]
  cases r.snapshots[k]? with
  | none => rfl
  | some s => split <;> simp [h]

/-! ## Rigs on the same device -/

/-- Both rigs hold the same blocks, controllers, instrument and costs. -/
structure SameDevice (r r' : Rig ν) : Prop where
  path0 : r'.path0 = r.path0
  path1 : r'.path1 = r.path1
  controllers : r'.controllers = r.controllers
  instrument : r'.instrument = r.instrument
  costs : r'.costs = r.costs

namespace SameDevice

variable {r r' : Rig ν}

theorem hasPath (h : r.SameDevice r') (hpath : r.HasPath) : r'.HasPath := by
  unfold HasPath at hpath ⊢
  rwa [h.path0, h.path1]

theorem path?_eq (h : r.SameDevice r') : r'.path? = r.path? := by
  funext path
  cases path with
  | path0 => exact h.path0
  | path1 => exact h.path1

end SameDevice

theorem sameDevice_modifySnapshot (r : Rig ν) (index : Nat) (f : Snapshot → Snapshot) :
    r.SameDevice (r.modifySnapshot index f) :=
  ⟨rfl, rfl, rfl, rfl, rfl⟩

end Rig

end SignalChain
