import SignalChain.Proofs.Chain.Design
import SignalChain.Proofs.Rig.Slot

/-!
# Changes of a rig

A rig is changed one step at a time.  For each change it is said which slots it
writes and with what, whatever the rig held before; only how many snapshots
there are matters to it.  The rest of the rig it leaves alone.  Replacing a path
or a table writes all its slots, also those that it leaves empty.
-/

namespace SignalChain

/-! ## Writing over what was there -/

theorem ite_or {α : Type} {p : Prop} [Decidable p] (a : α) (o : Option α) :
    (if p then some a else none).or o = if p then some a else o := by
  split <;> rfl

theorem ite_getD {α : Type} {p : Prop} [Decidable p] (a b : α) :
    (if p then some a else none).getD b = if p then a else b := by
  split <;> rfl

theorem getD_map_some {α : Type} (o o' : Option α) : (o.map some).getD o' = o.or o' := by
  cases o <;> rfl

/-! ## Changes of a snapshot -/

namespace Snapshot

/-- One change of a snapshot. -/
inductive Change where
  | switchBlock (path : DspPath) (key : String) (enabled : Bool)
  | setParam (path : DspPath) (key param : String) (value : Float)
  | overrideControllers (o : InstrumentOverride)
  | overrideInstrument (o : InstrumentOverride)
  | attachHint (hint : Hint)

namespace Change

/-- The snapshot after a change. -/
def apply : Change → Snapshot → Snapshot
  | .switchBlock path key enabled, s => s.withBlockEnabled path key enabled
  | .setParam path key param value, s => s.withParamValue path key param value
  | .overrideControllers o, s => s.withInstrumentControllers o
  | .overrideInstrument o, s => s.withInstrument o
  | .attachHint hint, s => s.withHint hint

/-- What a change writes in a slot, if it writes it. -/
def writes? : Change → (slot : Slot) → Option slot.Value
  | .switchBlock _ _ _, .switches => some ()
  | .switchBlock path key enabled, .switch other name =>
      if other = path ∧ name = key then some enabled else none
  | .setParam _ _ _ _, .values => some ()
  | .setParam path key _ _, .blockValues other name =>
      if other = path ∧ name = key then some () else none
  | .setParam path key param value, .value other name param' =>
      if other = path ∧ name = key ∧ param' = param then some value else none
  | .overrideControllers o, .instrumentControllers => some o
  | .overrideInstrument o, .instrument => some o
  | .attachHint hint, .hint => some hint
  | _, _ => none

theorem read_apply (change : Change) (s : Snapshot) (slot : Slot) :
    (change.apply s).read slot = (change.writes? slot).or (s.read slot) := by
  cases change with
  | switchBlock path key enabled =>
      cases slot with
      | switch other name =>
          simp only [writes?, ite_or]
          exact s.blockEnabled?_withBlockEnabled path other key name enabled
      | _ => rfl
  | setParam path key param value =>
      cases slot with
      | blockValues other name =>
          simp only [writes?, ite_or]
          change mark (((s.params.getD PerPath.empty).insertIn path key param value).get?
            other name) = _
          rw [PerPath.mark_get?_insertIn, PerPath.get?_getD_empty]
          rfl
      | value other name param' =>
          simp only [writes?, ite_or]
          exact s.paramValue?_withParamValue path other key name param param' value
      | _ => rfl
  | overrideControllers o => cases slot <;> rfl
  | overrideInstrument o => cases slot <;> rfl
  | attachHint hint => cases slot <;> rfl

theorem hasTechnicalData_apply (change : Change) {s : Snapshot}
    (h : s.hasTechnicalData = true) : (change.apply s).hasTechnicalData = true := by
  unfold hasTechnicalData at h ⊢
  cases change with
  | switchBlock path key enabled => rfl
  | setParam path key param value => simp [apply, withParamValue]
  | overrideControllers o => simp [apply, withInstrumentControllers]
  | overrideInstrument o => exact h
  | attachHint hint => exact h

end Change

end Snapshot

/-! ## Changes of a rig -/

namespace Rig

/-- One change of a rig, or of the snapshot of an index. -/
inductive Change (ν : Type) where
  | setName (name : String)
  | replacePath (path : DspPath) (blocks : Table String Block)
  | storeBlock (path : DspPath) (key : String) (block : Block)
  | replaceControllers (t : ControllerTable)
  | assignBlockParam (path : DspPath) (key param : String) (assignment : Assignment)
  | assignInstrumentParam (param : String) (assignment : Assignment)
  | setInstrument (i : Instrument)
  | replaceCosts (costs : CostTable ν)
  | appendSnapshot (s : Snapshot)
  | attachDesign (d : Design)
  | changeSnapshot (index : Nat) (change : Snapshot.Change)

variable {ν : Type}

namespace Change

/-- The rig after a change. -/
def apply : Change ν → Rig ν → Rig ν
  | .setName name, r => r.withName name
  | .replacePath path blocks, r => r.withPath path blocks
  | .storeBlock path key block, r => r.withBlock path key block
  | .replaceControllers t, r => r.withControllers t
  | .assignBlockParam path key param assignment, r =>
      r.withControllers (r.controllers.withBlockParam path key param assignment)
  | .assignInstrumentParam param assignment, r =>
      r.withControllers (r.controllers.withInstrumentParam param assignment)
  | .setInstrument i, r => r.withInstrument i
  | .replaceCosts costs, r => r.withCosts costs
  | .appendSnapshot s, r => r.withSnapshot s
  | .attachDesign d, r => r.withDesign d
  | .changeSnapshot index change, r => r.modifySnapshot index change.apply

/-- The number of snapshots after a change. -/
def countAfter : Nat → Change ν → Nat
  | count, .appendSnapshot _ => count + 1
  | count, .attachDesign d => max count d.snapshots.length
  | count, _ => count

/--
What a change writes in a slot of a rig with a number of snapshots, if it writes
the slot: a value, or nothing where it replaces a table that has none.
-/
def writes? (count : Nat) : Change ν → (slot : Slot) → Option (Option (slot.Value ν))
  | .setName name, .name => some (some name)
  | .replacePath path _, .path other => if other = path then some (some ()) else none
  | .replacePath path blocks, .block other name =>
      if other = path then some (blocks.get? name) else none
  | .storeBlock path _ _, .path other => if other = path then some (some ()) else none
  | .storeBlock path key block, .block other name =>
      if other = path ∧ name = key then some (some block) else none
  | .replaceControllers t, .blockControllers path key => some (mark (t.block? path key))
  | .replaceControllers t, .controller path key param => some (t.get? path key param)
  | .replaceControllers t, .instrumentController param => some (t.instrument.get? param)
  | .assignBlockParam path key _ _, .blockControllers other name =>
      if other = path ∧ name = key then some (some ()) else none
  | .assignBlockParam path key param assignment, .controller other name param' =>
      if other = path ∧ name = key ∧ param' = param then some (some assignment) else none
  | .assignInstrumentParam param assignment, .instrumentController param' =>
      if param' = param then some (some assignment) else none
  | .setInstrument i, .instrument => some (some i)
  | .replaceCosts costs, .cost model => some (costs.get? model)
  | .appendSnapshot s, .snapshot index slot => if index = count then some (s.read slot) else none
  | .attachDesign d, .snapshot index slot =>
      d.snapshots[index]?.bind fun w =>
        if index < count then ((Snapshot.Change.attachHint w.hint).writes? slot).map some
        else some (((Snapshot.ofName w.name).withHint w.hint).read slot)
  | .changeSnapshot index change, .snapshot other slot =>
      if other = index ∧ index < count then (change.writes? slot).map some else none
  | _, _ => none

theorem length_snapshots_apply (change : Change ν) (r : Rig ν) :
    (change.apply r).snapshots.length = change.countAfter r.snapshots.length := by
  cases change with
  | replacePath path blocks => simp [apply, countAfter]
  | storeBlock path key block => simp [apply, countAfter, withBlock]
  | appendSnapshot s => simp [apply, countAfter, withSnapshot]
  | attachDesign d => exact length_attachHints r.snapshots d.snapshots
  | changeSnapshot index change => simp [apply, countAfter, modifySnapshot]
  | _ => rfl

/-! ## What one change does to a slot -/

theorem read_snapshot_of_lt {r : Rig ν} {index : Nat} (h : index < r.snapshots.length)
    (slot : Snapshot.Slot) :
    ∃ s, r.snapshot? index = some s ∧ r.read (.snapshot index slot) = s.read slot := by
  have hs : r.snapshot? index = some r.snapshots[index] := List.getElem?_eq_getElem h
  exact ⟨_, hs, by rw [read, hs, Option.bind_some]⟩

theorem read_attachDesign (d : Design) (r : Rig ν) (index : Nat) (slot : Snapshot.Slot) :
    ((attachDesign d).apply r).read (.snapshot index slot) =
      ((attachDesign d).writes? r.snapshots.length (.snapshot index slot)).getD
        (r.read (.snapshot index slot)) := by
  change ((r.withDesign d).snapshot? index).bind _ = _
  rw [r.snapshot?_withDesign d index]
  simp only [writes?]
  cases d.snapshots[index]? with
  | none =>
      cases hs : r.snapshot? index <;> rw [read, hs] <;> rfl
  | some w =>
      -- A snapshot that is there only takes the hint, and a new one is written as a whole.
      by_cases hlt : index < r.snapshots.length
      · obtain ⟨s, hs, hread⟩ := read_snapshot_of_lt hlt slot
        simp only [hs, hread, hintedSnapshot, Option.bind_some, if_pos hlt, getD_map_some]
        exact Snapshot.Change.read_apply (.attachHint w.hint) s slot
      · have hnone : r.snapshot? index = none := snapshot?_eq_none_iff.2 (Nat.le_of_not_lt hlt)
        simp only [hnone, hintedSnapshot, Option.bind_some, if_neg hlt, Option.getD_some]

theorem read_changeSnapshot (index : Nat) (change : Snapshot.Change) (r : Rig ν) (other : Nat)
    (slot : Snapshot.Slot) :
    ((changeSnapshot index change).apply r).read (.snapshot other slot) =
      ((changeSnapshot index change).writes? r.snapshots.length (.snapshot other slot)).getD
        (r.read (.snapshot other slot)) := by
  change ((r.modifySnapshot index change.apply).snapshot? other).bind _ = _
  simp only [writes?]
  by_cases hother : other = index
  · subst hother
    rw [r.snapshot?_modifySnapshot]
    by_cases hlt : other < r.snapshots.length
    · obtain ⟨s, hs, hread⟩ := read_snapshot_of_lt hlt slot
      rw [hs, hread, if_pos ⟨rfl, hlt⟩, getD_map_some]
      exact change.read_apply s slot
    · have hnone : r.snapshot? other = none := snapshot?_eq_none_iff.2 (Nat.le_of_not_lt hlt)
      rw [hnone, if_neg (fun h => hlt h.2), read, hnone]
      rfl
  · rw [r.snapshot?_modifySnapshot_of_ne hother, if_neg (fun h => hother h.1)]
    rfl

/-- A slot that a change writes holds what it writes, and any other what it held before. -/
theorem read_apply (change : Change ν) (r : Rig ν) (slot : Slot) :
    (change.apply r).read slot =
      (change.writes? r.snapshots.length slot).getD (r.read slot) := by
  cases change with
  | setName name => cases slot <;> rfl
  | replacePath path blocks =>
      cases slot with
      | path other =>
          simp only [writes?, ite_getD]
          change mark ((r.withPath path blocks).path? other) = _
          rw [path?_withPath]
          split <;> rfl
      | block other name =>
          simp only [writes?, ite_getD]
          exact r.block?_withPath path other blocks name
      | _ => cases path <;> rfl
  | storeBlock path key block =>
      cases slot with
      | path other =>
          simp only [writes?, ite_getD]
          change mark ((r.withPath path _).path? other) = _
          rw [path?_withPath]
          split <;> rfl
      | block other name =>
          simp only [writes?, ite_getD]
          exact r.block?_withBlock path other key name block
      | _ => cases path <;> rfl
  | replaceControllers t => cases slot <;> rfl
  | assignBlockParam path key param assignment =>
      cases slot with
      | blockControllers other name =>
          simp only [writes?, ite_getD]
          exact PerPath.mark_get?_insertIn _ path other key name param assignment
      | controller other name param' =>
          simp only [writes?, ite_getD]
          exact PerPath.getIn?_insertIn _ path other key name param param' assignment
      | _ => rfl
  | assignInstrumentParam param assignment =>
      cases slot with
      | instrumentController param' =>
          simp only [writes?, ite_getD]
          exact Table.get?_insert _ param param' assignment
      | _ => rfl
  | setInstrument i => cases slot <;> rfl
  | replaceCosts costs => cases slot <;> rfl
  | appendSnapshot s =>
      cases slot with
      | snapshot index slot =>
          simp only [writes?, ite_getD]
          change ((r.withSnapshot s).snapshot? index).bind _ = _
          rw [snapshot?_withSnapshot]
          split <;> rfl
      | _ => rfl
  | attachDesign d =>
      cases slot with
      | snapshot index slot => exact read_attachDesign d r index slot
      | _ => rfl
  | changeSnapshot index change =>
      cases slot with
      | snapshot other slot => exact read_changeSnapshot index change r other slot
      | _ => rfl

end Change

end Rig

end SignalChain
