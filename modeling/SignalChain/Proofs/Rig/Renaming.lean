import Mathlib.Data.List.Nodup
import SignalChain.Proofs.Rig.Basic
import SignalChain.Proofs.Table

/-!
# Other keys for the blocks

The blocks of each path under new keys, with everything that is told of them by
path and key moved along.  A look-up under a new key finds what the old key had,
as long as no two keys become one.
-/

namespace SignalChain

namespace Table

variable {κ α : Type} [Ord κ] [Std.TransOrd κ] [Std.LawfulEqOrd κ]

/-- The table with each value under a new key. -/
def mapKeys (f : κ → κ) (t : Table κ α) : Table κ α :=
  ofList (t.toList.map (fun entry => (f entry.1, entry.2)))

variable {f : κ → κ} (hf : Function.Injective f)
include hf

theorem toList_mapKeys_perm (t : Table κ α) :
    (t.mapKeys f).toList.Perm (t.toList.map (fun entry => (f entry.1, entry.2))) := by
  have hkeys : ((t.toList.map (fun entry => (f entry.1, entry.2))).map (·.1)).Nodup := by
    have hmap := t.keys_nodup.map hf
    rwa [List.map_map] at hmap ⊢
  exact toList_insertMany_perm empty hkeys

theorem get?_mapKeys_eq_some_iff {t : Table κ α} {key : κ} {value : α} :
    (t.mapKeys f).get? key = some value ↔ ∃ k, f k = key ∧ t.get? k = some value := by
  rw [← mem_toList_iff, (toList_mapKeys_perm hf t).mem_iff, List.mem_map]
  constructor
  · intro hmem
    obtain ⟨⟨k, v⟩, hentry, heq⟩ := hmem
    obtain ⟨rfl, rfl⟩ := Prod.mk.inj heq
    exact ⟨k, rfl, mem_toList_iff.1 hentry⟩
  · intro hget
    obtain ⟨k, rfl, hk⟩ := hget
    exact ⟨(k, value), mem_toList_iff.2 hk, rfl⟩

theorem get?_mapKeys (t : Table κ α) (key : κ) : (t.mapKeys f).get? (f key) = t.get? key := by
  ext value
  rw [get?_mapKeys_eq_some_iff hf]
  constructor
  · intro hget
    obtain ⟨k, hk, hvalue⟩ := hget
    rwa [← hf hk]
  · intro hvalue
    exact ⟨key, rfl, hvalue⟩

theorem isSome_get?_mapKeys_iff {t : Table κ α} {key : κ} :
    ((t.mapKeys f).get? key).isSome ↔ ∃ k, f k = key ∧ (t.get? k).isSome := by
  simp only [Option.isSome_iff_exists, get?_mapKeys_eq_some_iff hf]
  constructor
  · intro hget
    obtain ⟨value, k, hk, hvalue⟩ := hget
    exact ⟨k, hk, value, hvalue⟩
  · intro hget
    obtain ⟨k, hk, value, hvalue⟩ := hget
    exact ⟨value, k, hk, hvalue⟩

theorem mapKeys_insert [DecidableEq κ] (t : Table κ α) (key : κ) (value : α) :
    (t.insert key value).mapKeys f = (t.mapKeys f).insert (f key) value := by
  refine eq_of_get? fun other => ?_
  rw [get?_insert]
  by_cases hother : other = f key
  · rw [if_pos hother, hother, get?_mapKeys hf, get?_insert, if_pos rfl]
  · rw [if_neg hother]
    ext found
    rw [get?_mapKeys_eq_some_iff hf, get?_mapKeys_eq_some_iff hf]
    refine exists_congr fun k => and_congr_right fun hk => ?_
    have hne : k ≠ key := fun heq => hother (heq ▸ hk.symm)
    rw [get?_insert, if_neg hne]

end Table

/-- A key for each key of a path. -/
abbrev Renaming :=
  DspPath → String → String

/-! ## What is told by path and key -/

namespace PerPath

variable {α : Type}

/-- The same of each block under its new key. -/
def rename (f : Renaming) (m : PerPath α) : PerPath α :=
  ⟨m.path0.mapKeys (f .path0), m.path1.mapKeys (f .path1)⟩

theorem onPath_rename (f : Renaming) (m : PerPath α) (path : DspPath) :
    (m.rename f).onPath path = (m.onPath path).mapKeys (f path) := by
  cases path <;> rfl

variable {f : Renaming} (hf : ∀ path, Function.Injective (f path))
include hf

theorem get?_rename (m : PerPath α) (path : DspPath) (key : String) :
    (m.rename f).get? path (f path key) = m.get? path key := by
  rw [get?, onPath_rename, Table.get?_mapKeys (hf path)]
  rfl

theorem isSome_get?_rename_iff {m : PerPath α} {path : DspPath} {key : String} :
    ((m.rename f).get? path key).isSome ↔ ∃ k, f path k = key ∧ (m.get? path k).isSome := by
  rw [get?, onPath_rename, Table.isSome_get?_mapKeys_iff (hf path)]
  rfl

end PerPath

/-! ## Rigs -/

namespace Snapshot

/-- The snapshot with its data under the new keys. -/
def rename (f : Renaming) (s : Snapshot) : Snapshot :=
  { s with
    blocks := s.blocks.map (·.rename f)
    params := s.params.map (·.rename f) }

variable {f : Renaming} (hf : ∀ path, Function.Injective (f path))
include hf

theorem blockEnabled?_rename (s : Snapshot) (path : DspPath) (key : String) :
    (s.rename f).blockEnabled? path (f path key) = s.blockEnabled? path key := by
  unfold blockEnabled? rename
  cases s.blocks with
  | none => rfl
  | some switches => exact PerPath.get?_rename hf switches path key

theorem paramValue?_rename (s : Snapshot) (path : DspPath) (key param : String) :
    (s.rename f).paramValue? path (f path key) param = s.paramValue? path key param := by
  unfold paramValue? rename
  cases s.params with
  | none => rfl
  | some values =>
      simp only [Option.map_some, Option.bind_some, PerPath.getIn?, PerPath.get?_rename hf]

end Snapshot

/-- The controllers with the blocks under their new keys. -/
def ControllerTable.rename (f : Renaming) (t : ControllerTable) : ControllerTable :=
  { t with blocks := t.blocks.rename f }

namespace Rig

variable {ν : Type}

/-- The rig with its blocks, and all that is told of them, under the new keys. -/
def rename (f : Renaming) (r : Rig ν) : Rig ν :=
  { r with
    path0 := r.path0.map (·.mapKeys (f .path0))
    path1 := r.path1.map (·.mapKeys (f .path1))
    controllers := r.controllers.rename f
    snapshots := r.snapshots.map (·.rename f) }

theorem path?_rename (f : Renaming) (r : Rig ν) (path : DspPath) :
    (r.rename f).path? path = (r.path? path).map (·.mapKeys (f path)) := by
  cases path <;> rfl

theorem hasPath_rename (f : Renaming) {r : Rig ν} (h : r.HasPath) : (r.rename f).HasPath := by
  unfold HasPath at h ⊢
  simpa [rename] using h

theorem snapshot?_rename (f : Renaming) (r : Rig ν) (index : Nat) :
    (r.rename f).snapshot? index = (r.snapshot? index).map (·.rename f) :=
  List.getElem?_map

variable {f : Renaming} (hf : ∀ path, Function.Injective (f path))
include hf

theorem block?_rename (r : Rig ν) (path : DspPath) (key : String) :
    (r.rename f).block? path (f path key) = r.block? path key := by
  unfold block?
  rw [path?_rename]
  cases r.path? path with
  | none => rfl
  | some blocks => exact Table.get?_mapKeys (hf path) blocks key

theorem block?_rename_eq_some_iff {r : Rig ν} {path : DspPath} {key : String} {block : Block} :
    (r.rename f).block? path key = some block ↔
      ∃ k, f path k = key ∧ r.block? path k = some block := by
  unfold block?
  rw [path?_rename]
  cases r.path? path with
  | none => simp
  | some blocks => exact Table.get?_mapKeys_eq_some_iff (hf path)

end Rig

end SignalChain
