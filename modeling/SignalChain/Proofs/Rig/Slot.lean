import SignalChain.Proofs.Rig.Basic
import SignalChain.Proofs.Table

/-!
# The slots of a rig

A rig is read slot by slot.  A slot is the smallest part of a rig that can be
written on its own: the block of a key, the assignment or the value of one
parameter, the switch of one block in one snapshot.  A table that may be absent
has a slot for its mark, which says that it is there.  Nothing of a rig lies
outside its slots: rigs that read alike are equal.
-/

namespace SignalChain

/-! ## Tables that may be absent -/

/-- That something is there, whatever it is. -/
def mark {α : Type} (o : Option α) : Option Unit :=
  o.map (fun _ => ())

theorem eq_of_mark_eq {α : Type} {o o' : Option α} (hmark : mark o = mark o')
    (hparts : ∀ a a', o = some a → o' = some a' → a = a') : o = o' := by
  cases o with
  | none =>
      cases o' with
      | none => rfl
      | some a' => cases hmark
  | some a =>
      cases o' with
      | none => cases hmark
      | some a' => rw [hparts a a' rfl rfl]

namespace PerPath

variable {α : Type}

theorem eq_of_get? {m m' : PerPath α}
    (h : ∀ path key, m.get? path key = m'.get? path key) : m = m' := by
  obtain ⟨first, second⟩ := m
  obtain ⟨first', second'⟩ := m'
  have hfirst : first = first' := Table.eq_of_get? (h .path0)
  have hsecond : second = second' := Table.eq_of_get? (h .path1)
  rw [hfirst, hsecond]

theorem eq_of_getIn? {m m' : PerPath (Table String α)}
    (hmark : ∀ path key, mark (m.get? path key) = mark (m'.get? path key))
    (h : ∀ path key name, m.getIn? path key name = m'.getIn? path key name) : m = m' := by
  refine eq_of_get? fun path key => eq_of_mark_eq (hmark path key) ?_
  intro entries entries' hentries hentries'
  refine Table.eq_of_get? fun name => ?_
  have hname := h path key name
  rwa [getIn?, getIn?, hentries, hentries'] at hname

theorem get?_getD_empty (m : Option (PerPath α)) (path : DspPath) (key : String) :
    (m.getD empty).get? path key = m.bind (fun entries => entries.get? path key) := by
  cases m with
  | none => cases path <;> rfl
  | some entries => rfl

theorem getIn?_getD_empty (m : Option (PerPath (Table String α))) (path : DspPath)
    (key name : String) :
    (m.getD empty).getIn? path key name =
      m.bind (fun entries => entries.getIn? path key name) := by
  cases m with
  | none => cases path <;> rfl
  | some entries => rfl

theorem getIn?_insertIn (m : PerPath (Table String α)) (path other : DspPath)
    (key key' name name' : String) (value : α) :
    (m.insertIn path key name value).getIn? other key' name' =
      if other = path ∧ key' = key ∧ name' = name then some value
      else m.getIn? other key' name' := by
  unfold getIn? insertIn
  rw [get?_insert]
  by_cases hblock : other = path ∧ key' = key
  · obtain ⟨rfl, rfl⟩ := hblock
    simp only [and_self, if_true, true_and, Option.bind_some, Table.get?_insert]
    cases m.get? other key' <;> rfl
  · have hnot : ¬ (other = path ∧ key' = key ∧ name' = name) :=
      fun hall => hblock ⟨hall.1, hall.2.1⟩
    rw [if_neg hblock, if_neg hnot]

theorem mark_get?_insertIn (m : PerPath (Table String α)) (path other : DspPath)
    (key key' name : String) (value : α) :
    mark ((m.insertIn path key name value).get? other key') =
      if other = path ∧ key' = key then some () else mark (m.get? other key') := by
  unfold insertIn
  rw [get?_insert]
  split <;> rfl

end PerPath

/-! ## Snapshots -/

namespace Snapshot

theorem blockEnabled?_withBlockEnabled (s : Snapshot) (path other : DspPath)
    (key name : String) (on : Bool) :
    (s.withBlockEnabled path key on).blockEnabled? other name =
      if other = path ∧ name = key then some on else s.blockEnabled? other name := by
  simp only [withBlockEnabled, blockEnabled?, Option.bind_some, PerPath.get?_insert,
    PerPath.get?_getD_empty]

theorem paramValue?_withParamValue (s : Snapshot) (path other : DspPath)
    (key name param param' : String) (x : Float) :
    (s.withParamValue path key param x).paramValue? other name param' =
      if other = path ∧ name = key ∧ param' = param then some x
      else s.paramValue? other name param' := by
  simp only [withParamValue, paramValue?, Option.bind_some, PerPath.getIn?_insertIn,
    PerPath.getIn?_getD_empty]

inductive Slot where
  | name
  | switches
  | switch (path : DspPath) (key : String)
  | values
  | blockValues (path : DspPath) (key : String)
  | value (path : DspPath) (key param : String)
  | instrumentControllers
  | instrument
  | hint

/-- What a slot of a snapshot holds. -/
abbrev Slot.Value : Slot → Type
  | .name => String
  | .switches => Unit
  | .switch _ _ => Bool
  | .values => Unit
  | .blockValues _ _ => Unit
  | .value _ _ _ => Float
  | .instrumentControllers => InstrumentOverride
  | .instrument => InstrumentOverride
  | .hint => Hint

/-- What is in a slot of a snapshot. -/
def read (s : Snapshot) : (slot : Slot) → Option slot.Value
  | .name => some s.name
  | .switches => mark s.blocks
  | .switch path key => s.blockEnabled? path key
  | .values => mark s.params
  | .blockValues path key => mark (s.params.bind (fun m => m.get? path key))
  | .value path key param => s.paramValue? path key param
  | .instrumentControllers => s.instrumentControllers
  | .instrument => s.instrument
  | .hint => s.hint

theorem eq_of_read {s s' : Snapshot} (h : ∀ slot, s.read slot = s'.read slot) : s = s' := by
  have hname : s.name = s'.name := Option.some.inj (h .name)
  have hblocks : s.blocks = s'.blocks := by
    refine eq_of_mark_eq (h .switches) ?_
    intro m m' hm hm'
    refine PerPath.eq_of_get? fun path key => ?_
    have hswitch : s.blockEnabled? path key = s'.blockEnabled? path key := h (.switch path key)
    rwa [blockEnabled?, blockEnabled?, hm, hm'] at hswitch
  have hparams : s.params = s'.params := by
    refine eq_of_mark_eq (h .values) ?_
    intro m m' hm hm'
    refine PerPath.eq_of_getIn? ?_ ?_
    · intro path key
      have hblock : mark (s.params.bind fun m => m.get? path key) =
          mark (s'.params.bind fun m => m.get? path key) := h (.blockValues path key)
      rwa [hm, hm'] at hblock
    · intro path key param
      have hvalue : s.paramValue? path key param = s'.paramValue? path key param :=
        h (.value path key param)
      rwa [paramValue?, paramValue?, hm, hm'] at hvalue
  have hcontrollers : s.instrumentControllers = s'.instrumentControllers :=
    h .instrumentControllers
  have hinstrument : s.instrument = s'.instrument := h .instrument
  have hhint : s.hint = s'.hint := h .hint
  cases s
  cases s'
  simp only [Snapshot.mk.injEq]
  exact ⟨hname, hblocks, hparams, hcontrollers, hinstrument, hhint⟩

end Snapshot

/-! ## Rigs -/

namespace Rig

inductive Slot where
  | name
  | path (path : DspPath)
  | block (path : DspPath) (key : String)
  | blockControllers (path : DspPath) (key : String)
  | controller (path : DspPath) (key param : String)
  | instrumentController (param : String)
  | instrument
  | cost (model : String)
  | snapshot (index : Nat) (slot : Snapshot.Slot)

/-- What a slot of a rig holds, with costs of a type. -/
abbrev Slot.Value (ν : Type) : Slot → Type
  | .name => String
  | .path _ => Unit
  | .block _ _ => Block
  | .blockControllers _ _ => Unit
  | .controller _ _ _ => Assignment
  | .instrumentController _ => Assignment
  | .instrument => Instrument
  | .cost _ => ν
  | .snapshot _ slot => slot.Value

variable {ν : Type}

/-- What is in a slot of a rig. -/
def read (r : Rig ν) : (slot : Slot) → Option (slot.Value ν)
  | .name => r.name
  | .path path => mark (r.path? path)
  | .block path key => r.block? path key
  | .blockControllers path key => mark (r.controllers.block? path key)
  | .controller path key param => r.controllers.get? path key param
  | .instrumentController param => r.controllers.instrument.get? param
  | .instrument => r.instrument
  | .cost model => r.costs.get? model
  | .snapshot index slot => (r.snapshot? index).bind (fun s => s.read slot)

theorem path?_eq_of_read {r r' : Rig ν} (h : ∀ slot, r.read slot = r'.read slot)
    (path : DspPath) : r.path? path = r'.path? path := by
  refine eq_of_mark_eq (h (.path path)) ?_
  intro blocks blocks' hblocks hblocks'
  refine Table.eq_of_get? fun key => ?_
  have hblock : r.block? path key = r'.block? path key := h (.block path key)
  rwa [block?, block?, hblocks, hblocks'] at hblock

theorem snapshot?_eq_of_read {r r' : Rig ν} (h : ∀ slot, r.read slot = r'.read slot)
    (index : Nat) : r.snapshot? index = r'.snapshot? index := by
  have hslot : ∀ slot : Snapshot.Slot, (r.snapshot? index).bind (fun s => s.read slot) =
      (r'.snapshot? index).bind (fun s => s.read slot) := fun slot => h (.snapshot index slot)
  -- Only a snapshot that is not there has no name.
  cases hs : r.snapshot? index with
  | none =>
      cases hs' : r'.snapshot? index with
      | none => rfl
      | some s' =>
          have hname := hslot .name
          rw [hs, hs'] at hname
          cases hname
  | some s =>
      cases hs' : r'.snapshot? index with
      | none =>
          have hname := hslot .name
          rw [hs, hs'] at hname
          cases hname
      | some s' =>
          refine congrArg some (Snapshot.eq_of_read fun slot => ?_)
          have hread := hslot slot
          rwa [hs, hs'] at hread

/-- A rig is what is in its slots. -/
theorem eq_of_read {r r' : Rig ν} (h : ∀ slot, r.read slot = r'.read slot) : r = r' := by
  have hname : r.name = r'.name := h .name
  have hpath0 : r.path0 = r'.path0 := path?_eq_of_read h .path0
  have hpath1 : r.path1 = r'.path1 := path?_eq_of_read h .path1
  have hblocks : r.controllers.blocks = r'.controllers.blocks :=
    PerPath.eq_of_getIn? (fun path key => h (.blockControllers path key))
      (fun path key param => h (.controller path key param))
  have hassignments : r.controllers.instrument = r'.controllers.instrument :=
    Table.eq_of_get? fun param => h (.instrumentController param)
  have hcontrollers : r.controllers = r'.controllers := by
    cases hc : r.controllers
    cases hc' : r'.controllers
    rw [hc, hc'] at hblocks hassignments
    simp only [ControllerTable.mk.injEq]
    exact ⟨hblocks, hassignments⟩
  have hsnapshots : r.snapshots = r'.snapshots :=
    List.ext_getElem? (snapshot?_eq_of_read h)
  have hinstrument : r.instrument = r'.instrument := h .instrument
  have hcosts : r.costs = r'.costs := Table.eq_of_get? fun model => h (.cost model)
  cases r
  cases r'
  simp only [Rig.mk.injEq]
  exact ⟨hname, hpath0, hpath1, hcontrollers, hsnapshots, hinstrument, hcosts⟩

end Rig

end SignalChain
