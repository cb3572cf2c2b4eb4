import SignalChain.Proofs.Chain.Isolation
import SignalChain.Proofs.Text.Blank

/-!
# How the references of hints may be spelled

Both matchers read a reference without the white space around it and without
regard to the case of its ASCII letters, and to both a blank reference means
nothing.  A hint is only ever asked whether one of its references means a stage.
So neither the spelling of the references nor their order and number matter to
a view, as long as a hint with references stays one.
-/

namespace SignalChain

open Text

/-! ## Matchers -/

/-- The spelling of a reference does not matter, and a blank one means nothing. -/
structure Matcher.OverlooksSpelling (matcher : Matcher) : Prop where
  spelling : ∀ {reference other : String}, SameSpelling reference.toList other.toList →
    matcher reference = matcher other
  blank : ∀ {reference : String}, AllBlank reference.toList →
    ∀ name, matcher reference name = false

namespace Matcher

theorem substring_overlooksSpelling : substring.OverlooksSpelling where
  spelling {reference other} h := by
    have hlower : lowercase (trim reference.toList) = lowercase (trim other.toList) :=
      lowercase_eq_of_lowercaseAscii_eq (sameSpelling_iff.1 h)
    funext name
    simp only [substring, hlower]
  blank {reference} h name := by
    simp only [substring, trim_eq_nil_of_allBlank h]
    rfl

theorem exact_overlooksSpelling : exact.OverlooksSpelling where
  spelling {reference other} h := by
    have hascii := sameSpelling_iff.1 h
    have hempty : (trim reference.toList).isEmpty = (trim other.toList).isEmpty := by
      have hlength := congrArg List.isEmpty hascii
      simpa only [lowercaseAscii, List.isEmpty_map] using hlength
    funext name
    simp only [exact, hascii, hempty]
  blank {reference} h name := by
    simp only [exact, trim_eq_nil_of_allBlank h]
    rfl

end Matcher

/-! ## References -/

/-- Every reference that is not blank stands in the other list too, in some spelling. -/
def Respelled (xs ys : List String) : Prop :=
  ∀ x ∈ xs, ¬ AllBlank x.toList → ∃ y ∈ ys, SameSpelling x.toList y.toList

instance (xs ys : List String) : Decidable (Respelled xs ys) :=
  inferInstanceAs (Decidable (∀ x ∈ xs, ¬ AllBlank x.toList →
    ∃ y ∈ ys, SameSpelling x.toList y.toList))

/-- The same references but for their spelling, their order and number, and blank ones. -/
structure SameReferences (xs ys : List String) : Prop where
  forth : Respelled xs ys
  back : Respelled ys xs

theorem Matcher.OverlooksSpelling.exists_meansAny {matcher : Matcher}
    (hm : matcher.OverlooksSpelling) {xs ys : List String} (h : Respelled xs ys)
    {names : List String} (hx : xs.any (fun x => matcher.meansAny x names) = true) :
    ys.any (fun y => matcher.meansAny y names) = true := by
  obtain ⟨x, hmem, hmeans⟩ := List.any_eq_true.1 hx
  have hnotBlank : ¬ AllBlank x.toList := by
    intro hblank
    obtain ⟨name, -, hname⟩ := List.any_eq_true.1 hmeans
    rw [hm.blank hblank name] at hname
    contradiction
  obtain ⟨y, hy, hspelling⟩ := h x hmem hnotBlank
  refine List.any_eq_true.2 ⟨y, hy, ?_⟩
  rw [Matcher.meansAny, ← hm.spelling hspelling]
  exact hmeans

theorem Matcher.OverlooksSpelling.any_meansAny_congr {matcher : Matcher}
    (hm : matcher.OverlooksSpelling) {xs ys : List String} (h : SameReferences xs ys)
    (names : List String) :
    xs.any (fun x => matcher.meansAny x names) = ys.any (fun y => matcher.meansAny y names) :=
  Bool.eq_iff_iff.2 ⟨hm.exists_meansAny h.forth, hm.exists_meansAny h.back⟩

/-! ## Hints and snapshots -/

/-- Two hints with the same references, for the switches and for the parameters. -/
structure Hint.SameReading (hint other : Hint) : Prop where
  activeBlocks : SameReferences hint.activeBlocks other.activeBlocks
  isEmpty : hint.activeBlocks.isEmpty = other.activeBlocks.isEmpty
  params : SameReferences hint.params.keys other.params.keys

/-- Two snapshots that differ in no more than how their hints spell the same references. -/
inductive Snapshot.SameReading (s : Snapshot) : Snapshot → Prop where
  | respelled (hint : Option Hint) (h : Option.Rel Hint.SameReading s.hint hint) :
      SameReading s { s with hint := hint }

section Readings

variable {matcher : Matcher} (hm : matcher.OverlooksSpelling)
include hm

theorem Hint.SameReading.activates_eq {hint other : Hint} (h : hint.SameReading other)
    (names : List String) : hint.activates matcher names = other.activates matcher names :=
  hm.any_meansAny_congr h.activeBlocks names

theorem Hint.SameReading.hasParamsFor_eq {hint other : Hint} (h : hint.SameReading other)
    (names : List String) : hint.hasParamsFor matcher names = other.hasParamsFor matcher names :=
  hm.any_meansAny_congr h.params names

/-- What is asked of a hint that may be missing has the same answer for both. -/
theorem any_activates_eq {hint other : Option Hint} (h : Option.Rel Hint.SameReading hint other)
    (names : List String) :
    hint.any (fun x => x.activates matcher names) =
      other.any (fun x => x.activates matcher names) := by
  cases h with
  | none => rfl
  | some hsame => exact hsame.activates_eq hm names

theorem activeSnapshots_eq {snapshots others : List Snapshot}
    (h : List.Forall₂ Snapshot.SameReading snapshots others) (names : List String) :
    activeSnapshots matcher names snapshots = activeSnapshots matcher names others := by
  induction h with
  | nil => rfl
  | @cons s _ _ _ hs _ ih =>
      obtain ⟨hint, hhint⟩ := hs
      unfold activeSnapshots at ih ⊢
      simp only [List.filter_cons, ← any_activates_eq hm hhint names]
      by_cases hactive : s.hint.any (fun x => x.activates matcher names) = true
      · simp [hactive, ih]
      · simp [hactive, ih]

theorem ChainBlock.selectedState_eq {snapshot other : Option Snapshot}
    (h : Option.Rel Snapshot.SameReading snapshot other) (stage : ChainBlock) :
    stage.selectedState matcher snapshot = stage.selectedState matcher other := by
  cases h with
  | none => rfl
  | @some s _ hs =>
      obtain ⟨name, blocks, params, controllers, instrument, own⟩ := s
      obtain ⟨hint, hhint⟩ := hs
      unfold selectedState
      cases stage.id with
      | instrument => rfl
      | onPath path key =>
          cases hhint with
          | none => rfl
          | some hsame =>
              simp only [hsame.activates_eq hm, hsame.isEmpty]
              rfl

theorem designShift_eq {snapshot other : Option Snapshot}
    (h : Option.Rel Snapshot.SameReading snapshot other) (names : List String) :
    (snapshot.bind (·.hint)).any (fun hint => hint.hasParamsFor matcher names) =
      (other.bind (·.hint)).any (fun hint => hint.hasParamsFor matcher names) := by
  cases h with
  | none => rfl
  | @some s _ hs =>
      obtain ⟨name, blocks, params, controllers, instrument, own⟩ := s
      obtain ⟨hint, hhint⟩ := hs
      simp only [Option.bind_some]
      cases hhint with
      | none => rfl
      | some hsame => exact hsame.hasParamsFor_eq hm names

end Readings

/-! ## What no hint decides -/

theorem ChainBlock.selectedParams_eq {snapshot other : Option Snapshot}
    (h : Option.Rel Snapshot.SameReading snapshot other) (stage : ChainBlock) :
    stage.selectedParams snapshot = stage.selectedParams other := by
  obtain ⟨id, block⟩ := stage
  cases h with
  | none => rfl
  | some hs =>
      obtain ⟨hint, -⟩ := hs
      cases id <;> rfl

theorem selectedInstrument_eq {snapshot other : Option Snapshot}
    (h : Option.Rel Snapshot.SameReading snapshot other) (base : Instrument) :
    selectedInstrument base snapshot = selectedInstrument base other := by
  cases h with
  | none => rfl
  | some hs =>
      obtain ⟨hint, -⟩ := hs
      rfl

theorem summary_eq {snapshot other : Option Snapshot}
    (h : Option.Rel Snapshot.SameReading snapshot other) (index : Nat) :
    snapshot.map (fun s => (⟨index, s.name⟩ : SnapshotSummary)) =
      other.map (fun s => ⟨index, s.name⟩) := by
  cases h with
  | none => rfl
  | some hs =>
      obtain ⟨hint, -⟩ := hs
      rfl

theorem rel_getElem? {α : Type} {related : α → α → Prop} {xs ys : List α}
    (h : List.Forall₂ related xs ys) (index : Nat) :
    Option.Rel related xs[index]? ys[index]? := by
  induction h generalizing index with
  | nil => exact .none
  | cons hhead _ ih =>
      cases index with
      | zero => exact .some hhead
      | succ index => simpa using ih index

theorem flatMap_snapshotWarnings_eq {ν : Type} (r : Rig ν) {snapshots others : List Snapshot}
    (h : List.Forall₂ Snapshot.SameReading snapshots others) :
    snapshots.flatMap (r.snapshotWarnings (ν := ν)) = others.flatMap r.snapshotWarnings := by
  induction h with
  | nil => rfl
  | cons hs _ ih =>
      obtain ⟨hint, -⟩ := hs
      rw [List.flatMap_cons, List.flatMap_cons, ih]
      rfl

/-! ## Whole views -/

variable {ν : Type}

/-- Two rigs that differ in no more than how their hints spell the same references. -/
inductive Rig.SameReading (r : Rig ν) : Rig ν → Prop where
  | respelled (snapshots : List Snapshot)
      (h : List.Forall₂ Snapshot.SameReading r.snapshots snapshots) :
      SameReading r { r with snapshots := snapshots }

section Views

variable [Amount ν] {r other : Rig ν} (h : r.SameReading other)
include h

theorem Rig.SameReading.warnings_eq : r.warnings = other.warnings := by
  obtain ⟨snapshots, hsnapshots⟩ := h
  have hfound := flatMap_snapshotWarnings_eq r hsnapshots
  exact congrArg (fun found => DspPath.all.flatMap r.positionWarnings ++ found ++
    r.controllerWarnings ++ r.costWarnings) hfound

theorem Rig.SameReading.resolveBlock_eq {matcher : Matcher} (hm : matcher.OverlooksSpelling)
    {snapshot selected : Option Snapshot} (hs : Option.Rel Snapshot.SameReading snapshot selected)
    (stage : ChainBlock) :
    r.resolveBlock matcher snapshot stage = other.resolveBlock matcher selected stage := by
  obtain ⟨snapshots, hsnapshots⟩ := h
  have hsome : snapshot.isSome = selected.isSome := by
    cases hs <;> rfl
  simp only [resolveBlock, stage.selectedState_eq hm hs, stage.selectedParams_eq hs,
    designShift_eq hm hs, activeSnapshots_eq hm hsnapshots, hsome]

theorem Rig.SameReading.resolveChain_eq {matcher : Matcher} (hm : matcher.OverlooksSpelling)
    (stages : List ChainBlock) (index : Nat) :
    r.resolveChain matcher stages index = other.resolveChain matcher stages index := by
  have hstate : ∀ snapshot selected, Option.Rel Snapshot.SameReading snapshot selected →
      ∀ stage, r.resolveBlock matcher snapshot stage = other.resolveBlock matcher selected stage :=
    fun _ _ hs stage => h.resolveBlock_eq hm hs stage
  obtain ⟨snapshots, hsnapshots⟩ := h
  have hs : Option.Rel Snapshot.SameReading (r.snapshot? index)
      (snapshot? { r with snapshots := snapshots } index) := rel_getElem? hsnapshots index
  have hinstrument : ∀ stage : ChainBlock,
      stage.withSelectedInstrument r (r.snapshot? index) =
        stage.withSelectedInstrument { r with snapshots := snapshots }
          (snapshot? { r with snapshots := snapshots } index) := by
    intro stage
    simp only [ChainBlock.withSelectedInstrument, selectedInstrument_eq hs]
  simp only [resolveChain, summary_eq hs, hinstrument, hstate _ _ hs]

theorem Engine.view_sameReading (e : Engine ν) (hm : e.matcher.OverlooksSpelling)
    (index : Nat) : e.view r index = e.view other index := by
  have hwarnings := h.warnings_eq
  have hchain := h.resolveChain_eq hm r.stages index
  obtain ⟨snapshots, hsnapshots⟩ := h
  simp only [view, viewOf, hchain, hwarnings]
  rfl

end Views

/--
Two rigs whose hints have the same references, in whatever spelling, order and
number, have the same views under either matcher.
-/
theorem views_overlook_spelling [Amount ν] (e : Engine ν)
    (hmatcher : e.matcher = Matcher.substring ∨ e.matcher = Matcher.exact) {r other : Rig ν}
    (hpath : r.HasPath) (h : r.SameReading other) (index : Nat) :
    ∃ v, e.resolve r index = .ok v ∧ e.resolve other index = .ok v := by
  have hm : e.matcher.OverlooksSpelling := by
    rcases hmatcher with hmatcher | hmatcher
    · rw [hmatcher]
      exact Matcher.substring_overlooksSpelling
    · rw [hmatcher]
      exact Matcher.exact_overlooksSpelling
  have hother : other.HasPath := by
    obtain ⟨snapshots, -⟩ := h
    exact hpath
  refine ⟨e.view r index, e.resolve_of_hasPath hpath index, ?_⟩
  rw [e.resolve_of_hasPath hother index, e.view_sameReading h hm]

/-- A snapshot that wants a block and has a parameter for it. -/
def spelledSnapshot (references : List String) (param : String) : Snapshot :=
  (Snapshot.ofName "Lead").withHint
    ⟨references, Table.ofList [(param, ⟨.text "longer", rfl⟩)], none, none⟩

/-- One reference, and the same twice in other letters and among blanks. -/
theorem views_overlook_spelling_bassBoost :
    let r := oneBlockRig [spelledSnapshot ["Bass Boost"] "boost"]
    let other := oneBlockRig
      [spelledSnapshot ["\u3000", "bass BOOST", "", "\tBASS boost "] " BOOST"]
    r.HasPath ∧ r.SameReading other ∧
      ∃ v, Engine.standard.resolve r 0 = .ok v ∧ Engine.standard.resolve other 0 = .ok v := by
  intro r other
  have hpath : r.HasPath := Or.inl rfl
  have hsame : r.SameReading other := by
    refine .respelled _ (.cons (.respelled _ (.some ⟨⟨?_, ?_⟩, rfl, ?_, ?_⟩)) .nil)
    all_goals decide +kernel
  exact ⟨hpath, hsame, views_overlook_spelling Engine.standard (Or.inl rfl) hpath hsame 0⟩

end SignalChain
