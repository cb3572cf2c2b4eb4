import SignalChain.Proofs.Chain.Isolation
import SignalChain.Proofs.Text.Case

/-!
# What a view takes from the matcher

Hints are all that a matcher is asked about.  It decides whether a hint switches
a block on, whether a hint has parameters for a stage and which snapshots want a
stage; everything else in a view is the same under any two matchers.  A matcher
that accepts more can only add to these answers, and the substring matcher
accepts whatever the exact one does.
-/

namespace SignalChain

variable {ν : Type}

/-! ## Matchers that accept more -/

namespace Matcher

/-- Every name that one matcher accepts for a reference is accepted by the other. -/
def Refines (strict loose : Matcher) : Prop :=
  ∀ reference name, strict reference name = true → loose reference name = true

theorem exact_refines_substring : exact.Refines substring := by
  intro reference name h
  simp only [exact, Bool.and_eq_true, Bool.not_eq_true', beq_iff_eq] at h
  obtain ⟨hreference, hascii⟩ := h
  have hlower := Text.lowercase_eq_of_lowercaseAscii_eq hascii
  have hne : Text.lowercase (Text.trim reference.toList) ≠ [] := by
    rw [Ne, Text.lowercase_eq_nil_iff, ← List.isEmpty_iff, hreference]
    exact Bool.false_ne_true
  rw [hlower] at hne
  simp only [substring, hlower]
  simp [hne]

variable {strict loose : Matcher}

theorem Refines.meansAny (h : strict.Refines loose) {reference : String} {names : List String}
    (hmeans : strict.meansAny reference names = true) :
    loose.meansAny reference names = true := by
  unfold Matcher.meansAny at hmeans ⊢
  obtain ⟨name, hname, hstrict⟩ := List.any_eq_true.1 hmeans
  exact List.any_eq_true.2 ⟨name, hname, h reference name hstrict⟩

end Matcher

/-! ## Hints -/

section Hints

variable {strict loose : Matcher} (h : strict.Refines loose) {names : List String}
include h

theorem Hint.activates_mono {hint : Hint} (hactive : hint.activates strict names = true) :
    hint.activates loose names = true := by
  unfold Hint.activates at hactive ⊢
  obtain ⟨reference, hmem, hmeans⟩ := List.any_eq_true.1 hactive
  exact List.any_eq_true.2 ⟨reference, hmem, h.meansAny hmeans⟩

theorem Hint.hasParamsFor_mono {hint : Hint} (hparams : hint.hasParamsFor strict names = true) :
    hint.hasParamsFor loose names = true := by
  unfold Hint.hasParamsFor at hparams ⊢
  obtain ⟨reference, hmem, hmeans⟩ := List.any_eq_true.1 hparams
  exact List.any_eq_true.2 ⟨reference, hmem, h.meansAny hmeans⟩

theorem activeSnapshots_sublist (snapshots : List Snapshot) :
    (activeSnapshots strict names snapshots).Sublist
      (activeSnapshots loose names snapshots) := by
  refine List.Sublist.map _ (List.monotone_filter_right snapshots fun s hs => ?_)
  obtain ⟨hint, hhint, hactive⟩ := (Option.any_eq_true _ _).1 hs
  exact (Option.any_eq_true _ _).2 ⟨hint, hhint, Hint.activates_mono h hactive⟩

end Hints

/-! ## One stage -/

/--
Two states of a stage agree in all that no hint decides, and what the hints
decide is wanted in the second whenever it is in the first.
-/
structure ResolvedBlock.WidenedBy (b b' : ResolvedBlock ν) : Prop where
  same : b' = { b with
    enabled := b'.enabled
    designShift := b'.designShift
    activeIn := b'.activeIn }
  unhinted : b.source ≠ .hint → b'.enabled = b.enabled
  enabled : b.enabled = true → b'.enabled = true
  designShift : b.designShift = true → b'.designShift = true
  activeIn : b.activeIn.Sublist b'.activeIn

/-- A stage's switch is the same under every matcher, or a hint is asked about it. -/
theorem ChainBlock.selectedState_cases (stage : ChainBlock) (snapshot : Option Snapshot) :
    (∃ state : Bool × EnabledSource, state.2 ≠ .hint ∧
        ∀ matcher, stage.selectedState matcher snapshot = state) ∨
      ∃ hint : Hint, ∀ matcher,
        stage.selectedState matcher snapshot =
          (hint.activates matcher stage.candidateNames, .hint) := by
  have hstored : ∀ state : Bool, (state, EnabledSource.stored).2 ≠ .hint := fun _ => nofun
  cases snapshot with
  | none => exact Or.inl ⟨_, hstored _, fun _ => rfl⟩
  | some s =>
      cases hid : stage.id with
      | instrument =>
          refine Or.inl ⟨(stage.block.enabled, .stored), hstored _, fun matcher => ?_⟩
          simp only [selectedState, hid]
      | onPath path key =>
          cases hblocks : s.blocks with
          | some switches =>
              cases hswitch : s.blockEnabled? path key with
              | none =>
                  refine Or.inl ⟨(stage.block.enabled, .stored), hstored _, fun matcher => ?_⟩
                  simp [selectedState, hid, hblocks, hswitch]
              | some on =>
                  refine Or.inl ⟨(on, .technical), nofun, fun matcher => ?_⟩
                  simp [selectedState, hid, hblocks, hswitch]
          | none =>
              cases hhint : s.hint with
              | none =>
                  refine Or.inl ⟨(stage.block.enabled, .stored), hstored _, fun matcher => ?_⟩
                  simp [selectedState, hid, hblocks, hhint]
              | some hint =>
                  cases hactive : hint.activeBlocks.isEmpty with
                  | true =>
                      refine Or.inl ⟨(stage.block.enabled, .stored), hstored _, fun matcher => ?_⟩
                      simp [selectedState, hid, hblocks, hhint, hactive]
                  | false =>
                      refine Or.inr ⟨hint, fun matcher => ?_⟩
                      simp [selectedState, hid, hblocks, hhint, hactive]

variable [Amount ν]

theorem Rig.resolveBlock_widenedBy {strict loose : Matcher} (h : strict.Refines loose)
    (r : Rig ν) (snapshot : Option Snapshot) (stage : ChainBlock) :
    (r.resolveBlock strict snapshot stage).WidenedBy (r.resolveBlock loose snapshot stage) := by
  have hshift : (r.resolveBlock strict snapshot stage).designShift = true →
      (r.resolveBlock loose snapshot stage).designShift = true := by
    intro hstrict
    simp only [resolveBlock, Bool.or_eq_true] at hstrict ⊢
    refine hstrict.imp_right fun hhinted => ?_
    obtain ⟨hint, hhint, hparams⟩ := (Option.any_eq_true _ _).1 hhinted
    exact (Option.any_eq_true _ _).2 ⟨hint, hhint, Hint.hasParamsFor_mono h hparams⟩
  have hactive : (r.resolveBlock strict snapshot stage).activeIn.Sublist
      (r.resolveBlock loose snapshot stage).activeIn := activeSnapshots_sublist h r.snapshots
  rcases stage.selectedState_cases snapshot with ⟨state, hne, hstate⟩ | ⟨hint, hstate⟩
  · refine ⟨?_, fun _ => ?_, fun hon => ?_, hshift, hactive⟩
    · simp only [resolveBlock, hstate]
    · simp only [resolveBlock, hstate]
    · simpa only [resolveBlock, hstate] using hon
  · refine ⟨?_, fun hsource => ?_, fun hon => ?_, hshift, hactive⟩
    · simp only [resolveBlock, hstate]
    · simp only [resolveBlock, hstate, ne_eq, not_true] at hsource
    · simp only [resolveBlock, hstate] at hon ⊢
      exact Hint.activates_mono h hon

/-! ## Whole views -/

/-- Under a matcher that accepts more, a view is the same but for what the hints want. -/
theorem Engine.view_widenedBy {strict loose : Matcher} (h : strict.Refines loose) (ceiling : ν)
    (r : Rig ν) (index : Nat) :
    let v := (⟨strict, ceiling⟩ : Engine ν).view r index
    let w := (⟨loose, ceiling⟩ : Engine ν).view r index
    w = { v with chain := { v.chain with blocks := w.chain.blocks } } ∧
      List.Forall₂ ResolvedBlock.WidenedBy v.chain.blocks w.chain.blocks := by
  intro v w
  have hblocks : List.Forall₂ ResolvedBlock.WidenedBy v.chain.blocks w.chain.blocks := by
    simp only [v, w, chain_view, Rig.resolveChain]
    rw [List.forall₂_map_left_iff, List.forall₂_map_right_iff, List.forall₂_same]
    exact fun stage _ => r.resolveBlock_widenedBy h _ _
  have hbudget : w.budget = v.budget := by
    have hsame : Budget.ofBlocks r.costs w.chain.blocks = Budget.ofBlocks r.costs v.chain.blocks :=
      Budget.ofBlocks_congr <| hblocks.imp fun b b' hb =>
        ⟨congrArg (·.id) hb.same, congrArg (·.block) hb.same⟩
    exact congrArg (·.withCeiling ceiling) hsame
  have hlevel : w.level = v.level := congrArg Budget.level hbudget
  refine ⟨?_, hblocks⟩
  have hparts : w = ⟨⟨v.chain.snapshot, w.chain.blocks⟩, w.budget, w.level, v.warnings⟩ := rfl
  rw [hparts, hbudget, hlevel]

/--
The views of a rig under the exact and under the substring matcher have the
same snapshot, budget, level and warnings, and the same stages but for what the
hints decide.  Whatever a hint wants of a stage under the exact matcher, it
wants under the substring matcher as well.
-/
theorem substring_widens_exact (r : Rig ν) (h : r.HasPath) (ceiling : ν) (index : Nat) :
    ∃ v w, (⟨Matcher.exact, ceiling⟩ : Engine ν).resolve r index = .ok v ∧
      (⟨Matcher.substring, ceiling⟩ : Engine ν).resolve r index = .ok w ∧
      w = { v with chain := { v.chain with blocks := w.chain.blocks } } ∧
      List.Forall₂ ResolvedBlock.WidenedBy v.chain.blocks w.chain.blocks :=
  ⟨_, _, Engine.resolve_of_hasPath _ h index, Engine.resolve_of_hasPath _ h index,
    Engine.view_widenedBy Matcher.exact_refines_substring ceiling r index⟩

/-- A snapshot whose hint names the display name of a block, in other letters, and a piece of it. -/
def hintedBoost : Snapshot :=
  (Snapshot.ofName "Lead").withHint
    ⟨["bass BOOST"], Table.ofList [("boost", ⟨.bool true, rfl⟩)], none, none⟩

example :
    Matcher.exact "bass BOOST" "Bass Boost" = true ∧ Matcher.exact "boost" "Bass Boost" = false ∧
      Matcher.substring "boost" "Bass Boost" = true := by
  decide

theorem substring_widens_exact_boost :
    let r := oneBlockRig [hintedBoost]
    r.HasPath ∧ ∃ v w, (⟨Matcher.exact, 100.0⟩ : Engine Float).resolve r 0 = .ok v ∧
      (⟨Matcher.substring, 100.0⟩ : Engine Float).resolve r 0 = .ok w ∧ w.budget = v.budget ∧
      List.Forall₂ ResolvedBlock.WidenedBy v.chain.blocks w.chain.blocks := by
  intro r
  have hpath : r.HasPath := Or.inl rfl
  obtain ⟨v, w, hv, hw, hsame, hblocks⟩ := substring_widens_exact r hpath 100.0 0
  exact ⟨hpath, v, w, hv, hw, congrArg (·.budget) hsame, hblocks⟩

end SignalChain
