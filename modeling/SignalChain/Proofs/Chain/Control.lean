import SignalChain.Proofs.Chain.Design

/-!
# What a snapshot controls and what a design shifts

The controller table is read in two ways: it is asked about one parameter of one
block, and the resolution goes through all assignments of a stage.  Both find
the same parameters.  Of an assignment only its controller counts, and of the
table only what it says of the stage itself.  A design shifts a stage if the
snapshot controls some of it or a parameter of the selected hint means it; and
that is all that the parameters of hints are looked at for.
-/

namespace SignalChain

variable {ν : Type}

/-! ## Controlled parameters -/

namespace ControllerTable

/-- The assignment of a parameter of a stage. -/
def assignment? (t : ControllerTable) (id : BlockId) (param : String) : Option Assignment :=
  match id with
  | .instrument => t.instrument.get? param
  | .onPath path key => t.get? path key param

/-- The snapshot is the controller of a parameter of a stage. -/
def Gives (t : ControllerTable) (id : BlockId) (param : String) : Prop :=
  ∃ a, t.assignment? id param = some a ∧ a.kind = .ofCode 9

/-- Two tables give the same parameters of a stage to the snapshot, and find the same stage. -/
structure GivesAlike (t u : ControllerTable) (id : BlockId) : Prop where
  gives_iff : ∀ param, t.Gives id param ↔ u.Gives id param
  inUse : id = .instrument → t.hasInstrumentEntries = u.hasInstrumentEntries

theorem gives_iff_any {t : ControllerTable} {id : BlockId} {param : String} :
    t.Gives id param ↔ (t.assignment? id param).any Assignment.isSnapshot = true := by
  have hsnapshot : ControllerKind.ofCode 9 = .snapshot := rfl
  simp [Gives, Option.any_eq_true, Assignment.isSnapshot, hsnapshot]

theorem gives_onPath_iff {t : ControllerTable} {path : DspPath} {key param : String} :
    t.Gives (.onPath path key) param ↔ t.isSnapshotControlled path key param = true :=
  gives_iff_any

end ControllerTable

namespace ChainBlock

theorem get?_assignments (stage : ChainBlock) (controllers : ControllerTable) (param : String) :
    (stage.assignments controllers).get? param = controllers.assignment? stage.id param := by
  unfold assignments ControllerTable.assignment?
  cases stage.id with
  | instrument => rfl
  | onPath path key =>
      simp only [ControllerTable.get?, ControllerTable.block?, PerPath.getIn?]
      cases controllers.blocks.get? path key <;> rfl

theorem mem_controlledParams_iff (stage : ChainBlock) (controllers : ControllerTable)
    (param : String) :
    param ∈ stage.controlledParams controllers ↔ controllers.Gives stage.id param := by
  have hentry : ∀ a, (param, a) ∈ (stage.assignments controllers).toList ↔
      controllers.assignment? stage.id param = some a := by
    intro a
    rw [Table.mem_toList_iff, get?_assignments]
  rw [ControllerTable.gives_iff_any, Option.any_eq_true]
  simp [controlledParams, hentry]

theorem controlledParams_ordered (stage : ChainBlock) (controllers : ControllerTable) :
    (stage.controlledParams controllers).Pairwise (fun k l => compare k l = .lt) :=
  List.pairwise_map.2 ((stage.assignments controllers).ordered.filter _)

theorem controlledParams_nodup (stage : ChainBlock) (controllers : ControllerTable) :
    (stage.controlledParams controllers).Nodup := by
  refine (stage.controlledParams_ordered controllers).imp ?_
  rintro k l hlt rfl
  simp at hlt

/-- The controlled parameters of a stage are known by what the table gives to the snapshot. -/
theorem controlledParams_congr {stage : ChainBlock} {t u : ControllerTable}
    (h : t.GivesAlike u stage.id) : stage.controlledParams t = stage.controlledParams u := by
  have hmem : ∀ param, param ∈ stage.controlledParams t ↔ param ∈ stage.controlledParams u := by
    intro param
    rw [mem_controlledParams_iff, mem_controlledParams_iff, h.gives_iff]
  have hperm := (List.perm_ext_iff_of_nodup (stage.controlledParams_nodup t)
    (stage.controlledParams_nodup u)).2 hmem
  refine hperm.eq_of_pairwise ?_ (stage.controlledParams_ordered t)
    (stage.controlledParams_ordered u)
  intro k l _ _ hkl hlk
  exact absurd hlk (Std.OrientedCmp.not_lt_of_lt hkl)

end ChainBlock

/-! ## The state of a stage -/

namespace ResolvedBlock

/-- The names that a reference can mean a shown stage by. -/
def names (b : ResolvedBlock ν) : List String :=
  [b.displayName, if b.id.isInstrument then InstrumentModel.genericName else b.block.model]

/-- Nothing of the stage is controlled, and nothing is shifted. -/
def IsUncontrolled (b : ResolvedBlock ν) : Prop :=
  b.snapshotControlled = [] ∧ b.designShift = false

/-- What of a stage is controlled, and whether it is shifted, under a selected snapshot. -/
structure FollowsControl (b : ResolvedBlock ν) (matcher : Matcher) (controllers : ControllerTable)
    (s : Snapshot) : Prop where
  distinct : b.snapshotControlled.Nodup
  onPath : ∀ path key, b.id = .onPath path key → ∀ param,
    param ∈ b.snapshotControlled ↔ controllers.isSnapshotControlled path key param = true
  instrument : b.id = .instrument → ∀ param,
    param ∈ b.snapshotControlled ↔
      ∃ a, controllers.instrument.get? param = some a ∧ a.kind = .ofCode 9
  designShift_iff : b.designShift = true ↔ b.snapshotControlled ≠ [] ∨
    ∃ hint, s.hint = some hint ∧
      ∃ reference ∈ hint.params.keys, ∃ name ∈ b.names, matcher reference name = true

/-- Two states of a stage differ in no more than the sign of a shift. -/
def SameButShift (b b' : ResolvedBlock ν) : Prop :=
  b' = { b with designShift := b'.designShift }

end ResolvedBlock

theorem Hint.hasParamsFor_iff {hint : Hint} {matcher : Matcher} {names : List String} :
    hint.hasParamsFor matcher names = true ↔
      ∃ reference ∈ hint.params.keys, ∃ name ∈ names, matcher reference name = true := by
  simp [hasParamsFor, Matcher.meansAny]

section Stages

variable [Amount ν]

namespace Rig

theorem names_resolveBlock (r : Rig ν) (matcher : Matcher) (snapshot : Option Snapshot)
    (stage : ChainBlock) :
    (r.resolveBlock matcher snapshot stage).names = stage.candidateNames := by
  obtain ⟨id, block⟩ := stage
  cases id <;> rfl

theorem isUncontrolled_resolveBlock (r : Rig ν) (matcher : Matcher) (stage : ChainBlock) :
    (r.resolveBlock matcher none stage).IsUncontrolled :=
  ⟨rfl, rfl⟩

theorem followsControl_resolveBlock (r : Rig ν) (matcher : Matcher) (s : Snapshot)
    (stage : ChainBlock) :
    (r.resolveBlock matcher (some s) stage).FollowsControl matcher r.controllers s where
  distinct := stage.controlledParams_nodup r.controllers
  onPath path key hid param := by
    have hmem := stage.mem_controlledParams_iff r.controllers param
    rw [show stage.id = .onPath path key from hid] at hmem
    exact hmem.trans ControllerTable.gives_onPath_iff
  instrument hid param := by
    have hmem := stage.mem_controlledParams_iff r.controllers param
    rw [show stage.id = .instrument from hid] at hmem
    exact hmem
  designShift_iff := by
    rw [names_resolveBlock]
    simp [resolveBlock, Option.any_eq_true, Hint.hasParamsFor_iff]

/-- Of the controllers a stage is told no more than what they give to the snapshot. -/
theorem resolveBlock_withControllers (r : Rig ν) {controllers : ControllerTable}
    (matcher : Matcher) (snapshot : Option Snapshot) {stage : ChainBlock}
    (h : r.controllers.GivesAlike controllers stage.id) :
    (r.withControllers controllers).resolveBlock matcher snapshot stage =
      r.resolveBlock matcher snapshot stage := by
  have hcontrolled := ChainBlock.controlledParams_congr h
  simp only [resolveBlock, hcontrolled]
  rfl

end Rig

theorem Engine.get?_view_withControllers (e : Engine ν) (r : Rig ν)
    {controllers : ControllerTable} {id : BlockId} (h : r.controllers.GivesAlike controllers id)
    (index : Nat) :
    (e.view (r.withControllers controllers) index).chain.get? id =
      (e.view r index).chain.get? id := by
  cases id with
  | onPath path key =>
      rw [get?_view_onPath, get?_view_onPath]
      refine congrArg (fun resolved => (r.block? path key).map resolved) ?_
      funext block
      exact r.resolveBlock_withControllers e.matcher (r.snapshot? index) h
  | instrument =>
      have hinUse : (r.withControllers controllers).instrumentInUse = r.instrumentInUse := by
        funext base
        rw [Rig.instrumentInUse, Rig.instrumentInUse, h.inUse rfl]
        rfl
      have hused : (r.withControllers controllers).usedInstrument? = r.usedInstrument? := by
        rw [Rig.usedInstrument?, Rig.usedInstrument?, hinUse]
        rfl
      rw [get?_view_instrument, get?_view_instrument, hused]
      refine congrArg (fun resolved => r.usedInstrument?.map resolved) ?_
      funext base
      exact r.resolveBlock_withControllers e.matcher (r.snapshot? index) h

end Stages

/-! ## The parameters of hints -/

/-- The snapshot with a hint that has no parameters, if it has a hint. -/
def Snapshot.withoutHintParams (s : Snapshot) : Snapshot :=
  { s with hint := s.hint.map fun hint => { hint with params := Table.empty } }

/-- Two rigs that differ in no more than the parameters of their hints. -/
inductive Rig.SameButHintParams (r : Rig ν) : Rig ν → Prop where
  | revised (snapshots : List Snapshot)
      (h : snapshots.map Snapshot.withoutHintParams =
        r.snapshots.map Snapshot.withoutHintParams) :
      SameButHintParams r { r with snapshots := snapshots }

section WithoutHintParams

variable {snapshot snapshot' : Option Snapshot}
  (h : snapshot'.map Snapshot.withoutHintParams = snapshot.map Snapshot.withoutHintParams)
include h

theorem deviceData_of_withoutHintParams : deviceData snapshot' = deviceData snapshot := by
  have hkept : ∀ snapshot : Option Snapshot,
      deviceData (snapshot.map Snapshot.withoutHintParams) = deviceData snapshot := by
    intro snapshot
    cases snapshot <;> rfl
  rw [← hkept snapshot', h, hkept]

theorem name_of_withoutHintParams :
    snapshot'.map (fun s => s.name) = snapshot.map (fun s => s.name) := by
  have hname := congrArg (Option.map fun s : Snapshot => s.name) h
  rwa [Option.map_map, Option.map_map] at hname

theorem isSome_of_withoutHintParams : snapshot'.isSome = snapshot.isSome := by
  simpa using congrArg Option.isSome h

theorem ChainBlock.selectedState_of_withoutHintParams (stage : ChainBlock) (matcher : Matcher) :
    stage.selectedState matcher snapshot' = stage.selectedState matcher snapshot := by
  have hkept : ∀ snapshot : Option Snapshot,
      stage.selectedState matcher (snapshot.map Snapshot.withoutHintParams) =
        stage.selectedState matcher snapshot := by
    intro snapshot
    obtain ⟨id, block⟩ := stage
    cases snapshot with
    | none => rfl
    | some s =>
        obtain ⟨name, blocks, params, controllers, instrument, hint⟩ := s
        cases id with
        | instrument => rfl
        | onPath path key => cases hint <;> rfl
  rw [← hkept snapshot', h, hkept]

end WithoutHintParams

theorem activeSnapshots_withoutHintParams (matcher : Matcher) (names : List String)
    (snapshots : List Snapshot) :
    activeSnapshots matcher names (snapshots.map Snapshot.withoutHintParams) =
      activeSnapshots matcher names snapshots := by
  refine activeSnapshots_map Snapshot.withoutHintParams (fun _ => rfl) (fun s => ?_) snapshots
  show (s.hint.map _).any _ = _
  cases s.hint <;> rfl

namespace Rig.SameButHintParams

variable {r r' : Rig ν} (h : r.SameButHintParams r')
include h

theorem sameDevice : r.SameDevice r' := by
  obtain ⟨snapshots, -⟩ := h
  exact ⟨rfl, rfl, rfl, rfl, rfl⟩

theorem snapshots_eq : r'.snapshots.map Snapshot.withoutHintParams =
    r.snapshots.map Snapshot.withoutHintParams := by
  obtain ⟨snapshots, hsnapshots⟩ := h
  exact hsnapshots

theorem snapshot?_eq (index : Nat) : (r'.snapshot? index).map Snapshot.withoutHintParams =
    (r.snapshot? index).map Snapshot.withoutHintParams := by
  simp only [snapshot?, ← List.getElem?_map, h.snapshots_eq]

theorem activeSnapshots_eq (matcher : Matcher) (names : List String) :
    activeSnapshots matcher names r'.snapshots = activeSnapshots matcher names r.snapshots := by
  rw [← activeSnapshots_withoutHintParams, h.snapshots_eq, activeSnapshots_withoutHintParams]

variable [Amount ν]

theorem warnings_eq : r'.warnings = r.warnings := by
  obtain ⟨snapshots, hsnapshots⟩ := h
  have hkept : ∀ snapshots : List Snapshot,
      (snapshots.map Snapshot.withoutHintParams).flatMap (r.snapshotWarnings (ν := ν)) =
        snapshots.flatMap r.snapshotWarnings := by
    intro snapshots
    rw [List.flatMap_map]
    rfl
  have hfound : snapshots.flatMap (r.snapshotWarnings (ν := ν)) =
      r.snapshots.flatMap r.snapshotWarnings := by
    rw [← hkept snapshots, hsnapshots, hkept]
  exact congrArg (fun found => DspPath.all.flatMap r.positionWarnings ++ found ++
    r.controllerWarnings ++ r.costWarnings) hfound

/-- A stage is told of the parameters of hints by nothing but the sign of a shift. -/
theorem resolveBlock_sameButShift {snapshot snapshot' : Option Snapshot}
    (hs : snapshot'.map Snapshot.withoutHintParams = snapshot.map Snapshot.withoutHintParams)
    (matcher : Matcher) (stage : ChainBlock) :
    (r.resolveBlock matcher snapshot (stage.withSelectedInstrument r snapshot)).SameButShift
      (r'.resolveBlock matcher snapshot' (stage.withSelectedInstrument r snapshot')) := by
  have hdata := deviceData_of_withoutHintParams hs
  rw [stage.withSelectedInstrument_of_deviceData hdata r]
  let selected := stage.withSelectedInstrument r snapshot
  have hstate := selected.selectedState_of_withoutHintParams hs matcher
  have hparams := selected.selectedParams_of_deviceData hdata
  have hactive := h.activeSnapshots_eq matcher selected.candidateNames
  have hsome := isSome_of_withoutHintParams hs
  have hcontrollers := h.sameDevice.controllers
  have hcosts := h.sameDevice.costs
  simp only [ResolvedBlock.SameButShift, resolveBlock, selected] at *
  simp only [hstate, hparams, hactive, hsome, hcontrollers, hcosts]

end Rig.SameButHintParams

variable [Amount ν]

/-- Views under other parameters of hints differ in the signs of a shift and in nothing else. -/
theorem Engine.view_sameButHintParams (e : Engine ν) {r r' : Rig ν} (h : r.SameButHintParams r')
    (index : Nat) :
    let v := e.view r index
    let w := e.view r' index
    w = { v with chain := { v.chain with blocks := w.chain.blocks } } ∧
      List.Forall₂ ResolvedBlock.SameButShift v.chain.blocks w.chain.blocks := by
  intro v w
  have hs := h.snapshot?_eq index
  have hblocks : List.Forall₂ ResolvedBlock.SameButShift v.chain.blocks w.chain.blocks :=
    e.forall₂_blocks_view h.sameDevice fun stage =>
      h.resolveBlock_sameButShift hs e.matcher stage
  refine ⟨?_, hblocks⟩
  have hview := e.view_congr h.sameDevice.costs (name_of_withoutHintParams hs)
    (hblocks.imp fun b b' hb => ⟨congrArg (·.id) hb, congrArg (·.block) hb⟩)
  rw [h.warnings_eq] at hview
  exact hview

/-! ## Whole views -/

/--
Without a selected snapshot nothing is controlled and nothing is shifted.  Under
a snapshot exactly the parameters are controlled that the table gives to it, and
a stage is shifted when some are or when the hint has parameters for it.  A
table that gives the same parameters of a stage to the snapshot shows the same
stage, and other parameters in the hints show in nothing but the shifts.
-/
theorem snapshot_control_exact (e : Engine ν) {r : Rig ν} (h : r.HasPath) (index : Nat) :
    ∃ v, e.resolve r index = .ok v ∧
      (r.snapshot? index = none → ∀ b ∈ v.chain.blocks, b.IsUncontrolled) ∧
      (∀ s, r.snapshot? index = some s →
        ∀ b ∈ v.chain.blocks, b.FollowsControl e.matcher r.controllers s) ∧
      (∀ controllers, ∃ w, e.resolve (r.withControllers controllers) index = .ok w ∧
        ∀ id, r.controllers.GivesAlike controllers id → w.chain.get? id = v.chain.get? id) ∧
      ∀ r', r.SameButHintParams r' → ∃ w, e.resolve r' index = .ok w ∧
        w = { v with chain := { v.chain with blocks := w.chain.blocks } } ∧
        List.Forall₂ ResolvedBlock.SameButShift v.chain.blocks w.chain.blocks := by
  have hstage : ∀ b ∈ (e.view r index).chain.blocks,
      ∃ stage, b = r.resolveBlock e.matcher (r.snapshot? index) stage := by
    intro b hb
    obtain ⟨stage, -, rfl⟩ := List.mem_map.1 hb
    exact ⟨_, rfl⟩
  refine ⟨e.view r index, e.resolve_of_hasPath h index, ?_, ?_, ?_, ?_⟩
  · intro hs b hb
    obtain ⟨stage, rfl⟩ := hstage b hb
    rw [hs]
    exact r.isUncontrolled_resolveBlock e.matcher stage
  · intro s hs b hb
    obtain ⟨stage, rfl⟩ := hstage b hb
    rw [hs]
    exact r.followsControl_resolveBlock e.matcher s stage
  · intro controllers
    have hpath : (r.withControllers controllers).HasPath := h
    exact ⟨_, e.resolve_of_hasPath hpath index, fun id hid =>
      e.get?_view_withControllers r hid index⟩
  · intro r' hr'
    obtain ⟨hview, hblocks⟩ := e.view_sameButHintParams hr' index
    exact ⟨_, e.resolve_of_hasPath (hr'.sameDevice.hasPath h) index, hview, hblocks⟩

/-- A parameter of one name that the snapshot controls on the second path only, and a hint. -/
def sharedParamRig (hinted : List (String × Document.Payload)) : Rig Float :=
  { oneBlockRig [(Snapshot.ofName "Lead").withHint ⟨[], Table.ofList hinted, none, none⟩] with
    controllers :=
      ((ControllerTable.empty.withBlockParam .path0 "a" "Gain" (.ofKind (.ofCode 9))).withBlockParam
        .path0 "a" "Mix" ((Assignment.ofKind (.ofCode 3)).withRange 0.0 1.0)).withBlockParam
          .path1 "a" "Mix" (.ofKind (.ofCode 9)) }

theorem snapshot_control_exact_sharedParam :
    let r := sharedParamRig [("boost", ⟨.bool true, rfl⟩)]
    r.HasPath ∧ ∃ v b, Engine.standard.resolve r 0 = .ok v ∧ b ∈ v.chain.blocks ∧
      b.id = .onPath .path0 "a" ∧ "Gain" ∈ b.snapshotControlled ∧ "Mix" ∉ b.snapshotControlled ∧
      b.designShift = true ∧
      ∃ w, Engine.standard.resolve (sharedParamRig []) 0 = .ok w ∧ w.budget = v.budget ∧
        List.Forall₂ ResolvedBlock.SameButShift v.chain.blocks w.chain.blocks := by
  intro r
  have hpath : r.HasPath := Or.inl rfl
  obtain ⟨v, hv, -, hselected, -, hrevised⟩ :=
    snapshot_control_exact Engine.standard hpath 0
  have hview : v = Engine.standard.view r 0 :=
    Except.ok.inj (hv.symm.trans (Engine.standard.resolve_of_hasPath hpath 0))
  let b := r.resolveBlock Matcher.substring (r.snapshot? 0)
    ⟨.onPath .path0 "a", Block.ofModel "BassBoost"⟩
  have hb : b ∈ v.chain.blocks := by
    rw [hview]
    exact (Engine.standard.mem_blocks_view_iff r 0).2 (Or.inr ⟨_, _, _, rfl, rfl⟩)
  have hcontrol := hselected _ rfl b hb
  have hgain : "Gain" ∈ b.snapshotControlled :=
    (hcontrol.onPath .path0 "a" rfl "Gain").2 (by decide +kernel)
  have hmix : "Mix" ∉ b.snapshotControlled := by
    rw [hcontrol.onPath .path0 "a" rfl "Mix"]
    decide +kernel
  have hshift : b.designShift = true :=
    hcontrol.designShift_iff.2 (Or.inl (List.ne_nil_of_mem hgain))
  obtain ⟨w, hw, hsame, hblocks⟩ := hrevised (sharedParamRig []) (.revised _ rfl)
  exact ⟨hpath, v, b, hv, hb, rfl, hgain, hmix, hshift, w, hw, congrArg (·.budget) hsame, hblocks⟩

end SignalChain
