import Mathlib.Data.List.Nodup
import SignalChain.Proofs.Rig.Change

/-!
# Rigs built by changes

A rig is built from one without blocks by changes in any number and order.  A
slot holds what the last change that writes it has put there, so runs that write
the same last build the same rig.  No run takes the device's data of a snapshot
away.
-/

namespace SignalChain

namespace Rig

variable {ν : Type}

/-! ## Runs of changes -/

/-- The rig after some changes, in order. -/
def build (r : Rig ν) (changes : List (Change ν)) : Rig ν :=
  changes.foldl (fun r change => change.apply r) r

/-- What the last change that writes a slot writes there, starting with a number of snapshots. -/
def lastWrite? (slot : Slot) : Nat → List (Change ν) → Option (Option (slot.Value ν))
  | _, [] => none
  | count, change :: later =>
      (lastWrite? slot (change.countAfter count) later).or (change.writes? count slot)

theorem build_append (r : Rig ν) (changes later : List (Change ν)) :
    r.build (changes ++ later) = (r.build changes).build later :=
  List.foldl_append

theorem length_snapshots_build (r : Rig ν) (changes : List (Change ν)) :
    (r.build changes).snapshots.length =
      changes.foldl Change.countAfter r.snapshots.length := by
  induction changes generalizing r with
  | nil => rfl
  | cons change later ih =>
      have hlater := ih (change.apply r)
      rwa [change.length_snapshots_apply] at hlater

theorem read_build (r : Rig ν) (changes : List (Change ν)) (slot : Slot) :
    (r.build changes).read slot =
      (lastWrite? slot r.snapshots.length changes).getD (r.read slot) := by
  induction changes generalizing r with
  | nil => rfl
  | cons change later ih =>
      have hlater := ih (change.apply r)
      rw [change.length_snapshots_apply, change.read_apply] at hlater
      rw [lastWrite?, Option.getD_or]
      exact hlater

/-! ## The device's data of snapshots -/

/-- The snapshots for which the device stored something are there and still have such data. -/
def KeepsTechnicalData (r r' : Rig ν) : Prop :=
  ∀ index s, r.snapshot? index = some s → s.hasTechnicalData = true →
    ∃ s', r'.snapshot? index = some s' ∧ s'.hasTechnicalData = true

theorem KeepsTechnicalData.of_snapshots_eq {r r' : Rig ν} (h : r'.snapshots = r.snapshots) :
    r.KeepsTechnicalData r' := by
  intro index s hs hdata
  refine ⟨s, ?_, hdata⟩
  rwa [snapshot?, h]

theorem KeepsTechnicalData.trans {r r' r'' : Rig ν} (h : r.KeepsTechnicalData r')
    (h' : r'.KeepsTechnicalData r'') : r.KeepsTechnicalData r'' := by
  intro index s hs hdata
  obtain ⟨s', hs', hdata'⟩ := h index s hs hdata
  exact h' index s' hs' hdata'

theorem keepsTechnicalData_apply (change : Change ν) (r : Rig ν) :
    r.KeepsTechnicalData (change.apply r) := by
  cases change with
  | replacePath path blocks => exact .of_snapshots_eq (r.snapshots_withPath path blocks)
  | storeBlock path key block => exact .of_snapshots_eq (r.snapshots_withPath path _)
  | appendSnapshot added =>
      intro index s hs hdata
      have hlt : index < r.snapshots.length := (List.getElem?_eq_some_iff.1 hs).1
      refine ⟨s, ?_, hdata⟩
      rw [Change.apply, snapshot?_withSnapshot, if_neg hlt.ne, hs]
  | attachDesign d =>
      intro index s hs hdata
      rw [Change.apply, snapshot?_withDesign, hs]
      cases d.snapshots[index]? with
      | none => exact ⟨s, rfl, hdata⟩
      | some w => exact ⟨_, rfl, hdata⟩
  | changeSnapshot changed change =>
      intro index s hs hdata
      rw [Change.apply]
      by_cases hindex : index = changed
      · subst hindex
        rw [snapshot?_modifySnapshot, hs]
        exact ⟨_, rfl, change.hasTechnicalData_apply hdata⟩
      · rw [snapshot?_modifySnapshot_of_ne r hindex]
        exact ⟨s, hs, hdata⟩
  | _ => exact .of_snapshots_eq rfl

theorem keepsTechnicalData_build (r : Rig ν) (changes : List (Change ν)) :
    r.KeepsTechnicalData (r.build changes) := by
  induction changes generalizing r with
  | nil => exact .of_snapshots_eq rfl
  | cons change later ih => exact (keepsTechnicalData_apply change r).trans (ih (change.apply r))

/-! ## The number of blocks -/

/-- The paths and keys that have a block. -/
def places (r : Rig ν) : List (DspPath × String) :=
  DspPath.all.flatMap fun path =>
    ((r.path? path).getD Table.empty).keys.map fun key => (path, key)

theorem mem_places_iff {r : Rig ν} {path : DspPath} {key : String} :
    (path, key) ∈ r.places ↔ (r.block? path key).isSome := by
  have hkey : key ∈ ((r.path? path).getD Table.empty).keys ↔ (r.block? path key).isSome := by
    rw [Table.mem_keys_iff, block?]
    cases r.path? path <;> rfl
  rw [← hkey]
  cases path <;> simp [places, DspPath.all]

theorem places_nodup (r : Rig ν) : r.places.Nodup := by
  refine List.nodup_flatMap.2 ⟨?_, ?_⟩
  · intro path _
    exact (Table.keys_nodup _).map (Prod.mk_right_injective path)
  · have hpaths : DspPath.all.Nodup := by decide
    refine hpaths.imp ?_
    intro path other hne place hplace hother
    obtain ⟨key, -, rfl⟩ := List.mem_map.1 hplace
    obtain ⟨key', -, heq⟩ := List.mem_map.1 hother
    exact hne (congrArg Prod.fst heq).symm

theorem blockCount_eq_length_places (r : Rig ν) : r.blockCount = r.places.length := by
  simp [blockCount, places, List.length_flatMap, Table.keys, Table.toList]

/-! ## Rigs built from nothing -/

/-- A rig to begin with: without paths, or with two that have no blocks. -/
def IsFresh (r : Rig ν) : Prop :=
  r = empty ∨ r = new

theorem IsFresh.snapshots_eq {r : Rig ν} (h : r.IsFresh) : r.snapshots = [] := by
  rcases h with rfl | rfl <;> rfl

/-- Whether a slot is the mark of a path. -/
def Slot.isPath : Slot → Bool
  | .path _ => true
  | _ => false

/-- All that a rig to begin with can hold are its paths. -/
theorem IsFresh.read_eq_none {r : Rig ν} (h : r.IsFresh) {slot : Slot}
    (hslot : slot.isPath = false) : r.read slot = none := by
  cases slot with
  | path path => cases hslot
  | block path key => rcases h with rfl | rfl <;> cases path <;> rfl
  | blockControllers path key => rcases h with rfl | rfl <;> cases path <;> rfl
  | controller path key param => rcases h with rfl | rfl <;> cases path <;> rfl
  | _ => rcases h with rfl | rfl <;> rfl

/-- The look-ups in a rig answer with what changes have written last. -/
structure HoldsLastWrites (r : Rig ν) (changes : List (Change ν)) : Prop where
  snapshotCount : r.snapshots.length = changes.foldl Change.countAfter 0
  block : ∀ path key,
    r.block? path key = (lastWrite? (.block path key) 0 changes).join
  blockCount : ∃ places : List (DspPath × String), places.Nodup ∧
    (∀ path key, (path, key) ∈ places ↔
      (lastWrite? (.block path key) 0 changes).join.isSome) ∧
    r.blockCount = places.length
  controller : ∀ path key param,
    r.controllers.get? path key param = (lastWrite? (.controller path key param) 0 changes).join
  instrumentController : ∀ param,
    r.controllers.instrument.get? param =
      (lastWrite? (.instrumentController param) 0 changes).join
  blockEnabled : ∀ index path key,
    (r.snapshot? index).bind (fun s => s.blockEnabled? path key) =
      (lastWrite? (.snapshot index (.switch path key)) 0 changes).join
  paramValue : ∀ index path key param,
    (r.snapshot? index).bind (fun s => s.paramValue? path key param) =
      (lastWrite? (.snapshot index (.value path key param)) 0 changes).join

theorem read_build_of_isFresh {start : Rig ν} (h : start.IsFresh) (changes : List (Change ν))
    (slot : Slot) :
    (start.build changes).read slot = (lastWrite? slot 0 changes).getD (start.read slot) := by
  rw [read_build, h.snapshots_eq]
  rfl

theorem holdsLastWrites_build {start : Rig ν} (h : start.IsFresh) (changes : List (Change ν)) :
    (start.build changes).HoldsLastWrites changes := by
  have hread : ∀ slot : Slot, slot.isPath = false →
      (start.build changes).read slot = (lastWrite? slot 0 changes).join := by
    intro slot hslot
    rw [read_build_of_isFresh h, h.read_eq_none hslot]
    cases lastWrite? slot 0 changes <;> rfl
  have hblock : ∀ path key, (start.build changes).block? path key =
      (lastWrite? (.block path key) 0 changes).join :=
    fun path key => hread (.block path key) rfl
  exact
    { snapshotCount := by
        rw [length_snapshots_build, h.snapshots_eq]
        rfl
      block := hblock
      blockCount := by
        refine ⟨(start.build changes).places, places_nodup _, ?_, blockCount_eq_length_places _⟩
        intro path key
        rw [mem_places_iff, hblock]
      controller := fun path key param => hread (.controller path key param) rfl
      instrumentController := fun param => hread (.instrumentController param) rfl
      blockEnabled := fun index path key =>
        hread (.snapshot index (.switch path key)) rfl
      paramValue := fun index path key param =>
        hread (.snapshot index (.value path key param)) rfl }

/-- Changes that write the same last build the same rig. -/
theorem build_congr (r : Rig ν) {changes others : List (Change ν)}
    (h : ∀ slot, lastWrite? slot r.snapshots.length changes =
      lastWrite? slot r.snapshots.length others) : r.build changes = r.build others := by
  refine eq_of_read fun slot => ?_
  rw [read_build, read_build, h]

end Rig

/--
Each look-up in a rig that changes have built answers with what was written
last, a further change leaves every slot alone that it does not write, and
snapshots keep having the device's data.  What was written last is all that a
rig depends on.
-/
theorem builds_hold_last_writes {ν : Type} {start : Rig ν} (h : start.IsFresh)
    (changes : List (Rig.Change ν)) :
    (start.build changes).HoldsLastWrites changes ∧
    (∀ slot, (start.build changes).read slot =
      (Rig.lastWrite? slot 0 changes).getD (start.read slot)) ∧
    (∀ (change : Rig.Change ν) slot,
      change.writes? (start.build changes).snapshots.length slot = none →
      (start.build (changes ++ [change])).read slot = (start.build changes).read slot) ∧
    (∀ later, (start.build changes).KeepsTechnicalData (start.build (changes ++ later))) ∧
    ∀ others, (∀ slot, Rig.lastWrite? slot 0 changes = Rig.lastWrite? slot 0 others) →
      start.build changes = start.build others := by
  refine ⟨Rig.holdsLastWrites_build h changes, Rig.read_build_of_isFresh h changes, ?_, ?_, ?_⟩
  · intro change slot hother
    rw [Rig.build_append]
    change (change.apply (start.build changes)).read slot = _
    rw [change.read_apply, hother, Option.getD_none]
  · intro later
    rw [Rig.build_append]
    exact Rig.keepsTechnicalData_build _ later
  · intro others hlast
    refine start.build_congr fun slot => ?_
    rw [h.snapshots_eq]
    exact hlast slot

/-- A block that a replaced path takes away, and a snapshot that is switched, hinted and kept. -/
def replacedPathRun : List (Rig.Change Float) :=
  [.storeBlock .path0 "a" (Block.ofModel "HD2_ReverbPlate"),
    .replacePath .path0 Table.empty,
    .storeBlock .path1 "b" (Block.ofModel "HD2_DelaySimple"),
    .attachDesign boostDesign,
    .changeSnapshot 1 (.switchBlock .path1 "b" false),
    .appendSnapshot (Snapshot.ofName "Lead"),
    .changeSnapshot 1 (.switchBlock .path1 "b" true)]

theorem builds_hold_last_writes_replacedPath :
    let r := (Rig.empty : Rig Float).build replacedPathRun
    (Rig.empty : Rig Float).IsFresh ∧
      r.block? .path0 "a" = none ∧
      r.block? .path1 "b" = some (Block.ofModel "HD2_DelaySimple") ∧
      r.snapshots.length = 3 ∧
      (r.snapshot? 1).bind (fun s => s.blockEnabled? .path1 "b") = some true ∧
      (.setName "Rig" : Rig.Change Float).writes? r.snapshots.length (.block .path1 "b") = none ∧
      ((Rig.empty : Rig Float).build (replacedPathRun ++ [.setName "Rig"])).read
        (.block .path1 "b") = some (Block.ofModel "HD2_DelaySimple") := by
  intro r
  have hfresh : (Rig.empty : Rig Float).IsFresh := Or.inl rfl
  obtain ⟨hholds, -, hkept, -⟩ := builds_hold_last_writes hfresh replacedPathRun
  have hblock : r.block? .path1 "b" = some (Block.ofModel "HD2_DelaySimple") :=
    hholds.block .path1 "b"
  refine ⟨hfresh, hholds.block .path0 "a", hblock, hholds.snapshotCount,
    hholds.blockEnabled 1 .path1 "b", rfl, ?_⟩
  rw [hkept (.setName "Rig") (.block .path1 "b") rfl]
  exact hblock

end SignalChain
