import SignalChain.Proofs.Chain.View
import SignalChain.Proofs.Table

/-!
# What a view does not look at

The range that an assignment covers and the values that a hint gives for
parameters are stored and written again, but no view of a rig depends on them.
-/

namespace SignalChain

/-! ## Rigs without what is not seen -/

/-- Something else of each block. -/
def PerPath.map {α β : Type} (f : α → β) (m : PerPath α) : PerPath β :=
  ⟨m.path0.map fun _ => f, m.path1.map fun _ => f⟩

/-- The assignment without its range. -/
def Assignment.seen (a : Assignment) : Assignment :=
  .ofKind a.kind

def Assignments.seen (t : Assignments) : Assignments :=
  t.map fun _ => Assignment.seen

def ControllerTable.seen (t : ControllerTable) : ControllerTable :=
  ⟨t.blocks.map Assignments.seen, Assignments.seen t.instrument⟩

/-- The value that stands for any value. -/
def Hint.anyValue : Document.Payload :=
  ⟨.null, by decide⟩

/-- The hint with the names of its parameters and without their values. -/
def Hint.seen (hint : Hint) : Hint :=
  { hint with params := hint.params.map fun _ _ => anyValue }

def Snapshot.seen (s : Snapshot) : Snapshot :=
  { s with hint := s.hint.map Hint.seen }

variable {ν : Type}

/-- The rig with no more than what a view looks at. -/
def Rig.seen (r : Rig ν) : Rig ν :=
  { r with
    controllers := r.controllers.seen
    snapshots := r.snapshots.map Snapshot.seen }

/-! ## The tables underneath -/

namespace PerPath

variable {α β : Type}

theorem onPath_map (f : α → β) (m : PerPath α) (path : DspPath) :
    (m.map f).onPath path = (m.onPath path).map fun _ => f := by
  cases path <;> rfl

theorem get?_map (f : α → β) (m : PerPath α) (path : DspPath) (key : String) :
    (m.map f).get? path key = (m.get? path key).map f := by
  rw [get?, onPath_map, Table.get?_map]
  rfl

/-- Which blocks are told of does not depend on what is told. -/
theorem targets_map (f : α → β) (m : PerPath α) :
    (m.map f).toList.map (fun entry => (entry.1, entry.2.1)) =
      m.toList.map (fun entry => (entry.1, entry.2.1)) := by
  have hpath : ∀ path : DspPath,
      ((m.map f).onPath path).toList.map (·.1) = (m.onPath path).toList.map (·.1) := by
    intro path
    rw [onPath_map]
    exact Table.keys_map _ _
  simp only [toList, List.map_flatMap, List.map_map, Function.comp_def]
  refine congrArg (DspPath.all.flatMap ·) ?_
  funext path
  have hkeys := congrArg (List.map (Prod.mk path)) (hpath path)
  simpa only [List.map_map, Function.comp_def] using hkeys

end PerPath

/-! ## Assembly and warnings -/

namespace Rig

theorem stages_seen (r : Rig ν) : r.seen.stages = r.stages := by
  have hentries : r.seen.controllers.hasInstrumentEntries =
      r.controllers.hasInstrumentEntries := by
    show (!(r.controllers.instrument.entries.map _).isEmpty) = _
    rw [List.isEmpty_map]
    rfl
  have hinstrument : r.seen.instrumentStage = r.instrumentStage := by
    simp only [instrumentStage, instrumentInUse, hentries]
    rfl
  have hpaths : r.seen.pathStages = r.pathStages := rfl
  rw [stages, stages, hinstrument, hpaths]

theorem warnings_seen [Amount ν] (r : Rig ν) : r.seen.warnings = r.warnings := by
  have hcontrollers : (r.seen.controllerWarnings : List (Warning ν)) = r.controllerWarnings := by
    have htargets : r.seen.controllers.blocks.toList.map (fun entry => (entry.1, entry.2.1)) =
        r.controllers.blocks.toList.map (fun entry => (entry.1, entry.2.1)) :=
      r.controllers.blocks.targets_map Assignments.seen
    rw [controllerWarnings, htargets]
    rfl
  have hsnapshots : r.seen.snapshots.flatMap r.seen.snapshotWarnings =
      r.snapshots.flatMap r.snapshotWarnings := by
    show (r.snapshots.map Snapshot.seen).flatMap _ = _
    rw [List.flatMap_map]
    rfl
  rw [warnings, warnings, hcontrollers, hsnapshots]
  rfl

end Rig

/-! ## Resolution -/

namespace ChainBlock

theorem assignments_seen (stage : ChainBlock) (controllers : ControllerTable) :
    stage.assignments controllers.seen = Assignments.seen (stage.assignments controllers) := by
  obtain ⟨id, block⟩ := stage
  cases id with
  | instrument => rfl
  | onPath path key =>
      have hblock : controllers.seen.block? path key =
          (controllers.block? path key).map Assignments.seen :=
        PerPath.get?_map _ _ _ _
      simp only [assignments, hblock]
      cases controllers.block? path key <;> rfl

theorem controlledParams_seen (stage : ChainBlock) (controllers : ControllerTable) :
    stage.controlledParams controllers.seen = stage.controlledParams controllers := by
  unfold controlledParams
  rw [assignments_seen]
  show (((stage.assignments controllers).toList.map
    (fun entry => (entry.1, entry.2.seen))).filter _).map _ = _
  rw [List.filter_map, List.map_map]
  rfl

theorem withSelectedInstrument_seen (stage : ChainBlock) (r : Rig ν)
    (snapshot : Option Snapshot) :
    stage.withSelectedInstrument r.seen (snapshot.map Snapshot.seen) =
      stage.withSelectedInstrument r snapshot := by
  cases snapshot <;> rfl

theorem selectedParams_seen (stage : ChainBlock) (snapshot : Option Snapshot) :
    stage.selectedParams (snapshot.map Snapshot.seen) = stage.selectedParams snapshot := by
  obtain ⟨id, block⟩ := stage
  cases snapshot with
  | none => rfl
  | some s => cases id <;> rfl

theorem selectedState_seen (stage : ChainBlock) (matcher : Matcher)
    (snapshot : Option Snapshot) :
    stage.selectedState matcher (snapshot.map Snapshot.seen) =
      stage.selectedState matcher snapshot := by
  cases snapshot with
  | none => rfl
  | some s =>
      obtain ⟨id, block⟩ := stage
      cases id with
      | instrument => rfl
      | onPath path key =>
          obtain ⟨name, blocks, params, controllers, instrument, hint⟩ := s
          cases hint <;> rfl

end ChainBlock

theorem Hint.hasParamsFor_seen (hint : Hint) (matcher : Matcher) (names : List String) :
    hint.seen.hasParamsFor matcher names = hint.hasParamsFor matcher names := by
  have hkeys : hint.seen.params.keys = hint.params.keys := Table.keys_map _ _
  rw [hasParamsFor, hkeys]
  rfl

theorem activeSnapshots_seen (matcher : Matcher) (names : List String)
    (snapshots : List Snapshot) :
    activeSnapshots matcher names (snapshots.map Snapshot.seen) =
      activeSnapshots matcher names snapshots := by
  refine activeSnapshots_map Snapshot.seen (fun _ => rfl) (fun s => ?_) snapshots
  show (s.hint.map Hint.seen).any _ = _
  cases s.hint <;> rfl

namespace Rig

variable [Amount ν]

theorem resolveBlock_seen (r : Rig ν) (matcher : Matcher) (snapshot : Option Snapshot)
    (stage : ChainBlock) :
    r.seen.resolveBlock matcher (snapshot.map Snapshot.seen) stage =
      r.resolveBlock matcher snapshot stage := by
  have hhinted : ((snapshot.map Snapshot.seen).bind (·.hint)).any
        (fun hint => hint.hasParamsFor matcher stage.candidateNames) =
      (snapshot.bind (·.hint)).any
        (fun hint => hint.hasParamsFor matcher stage.candidateNames) := by
    cases snapshot with
    | none => rfl
    | some s =>
        show (s.hint.map Hint.seen).any _ = s.hint.any _
        cases s.hint with
        | none => rfl
        | some hint => exact hint.hasParamsFor_seen matcher _
  have hcontrolled := stage.controlledParams_seen r.controllers
  have hactive := activeSnapshots_seen matcher stage.candidateNames r.snapshots
  have hcontrollers : r.seen.controllers = r.controllers.seen := rfl
  have hsnapshots : r.seen.snapshots = r.snapshots.map Snapshot.seen := rfl
  have hcosts : r.seen.costs = r.costs := rfl
  simp only [resolveBlock, hhinted, hcontrollers, hcontrolled, hsnapshots, hactive, hcosts,
    stage.selectedState_seen, stage.selectedParams_seen, Option.isSome_map]

theorem resolveChain_seen (r : Rig ν) (matcher : Matcher) (chain : List ChainBlock)
    (index : Nat) :
    r.seen.resolveChain matcher chain index = r.resolveChain matcher chain index := by
  have hsnapshot : r.seen.snapshot? index = (r.snapshot? index).map Snapshot.seen :=
    List.getElem?_map
  have hsummary : ((r.snapshot? index).map Snapshot.seen).map
        (fun s => (⟨index, s.name⟩ : SnapshotSummary)) =
      (r.snapshot? index).map (fun s => ⟨index, s.name⟩) := by
    cases r.snapshot? index <;> rfl
  simp only [resolveChain, hsnapshot, hsummary, ChainBlock.withSelectedInstrument_seen,
    resolveBlock_seen]

end Rig

theorem Engine.resolve_seen [Amount ν] (e : Engine ν) (r : Rig ν) (index : Nat) :
    e.resolve r.seen index = e.resolve r index := by
  have hstructure : r.seen.checkStructure = r.checkStructure := rfl
  simp only [resolve, Rig.validate, Rig.assemble, viewOf, hstructure, r.stages_seen,
    r.warnings_seen, r.resolveChain_seen]
  rfl

end SignalChain
