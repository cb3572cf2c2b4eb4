import Mathlib.Data.List.Induction
import SignalChain.Proofs.Chain.Design

/-!
# Attaching a design index by index

Attaching a design is a run over its snapshots: each of them gives its hint to
the rig's snapshot of the same index, or is added behind the last one.  What the
rig holds then is said index by index, and no other rig holds the same.  A second
run with the same design changes nothing, and a design that is at least as long
as the first leaves none of the first one's hints.
-/

namespace SignalChain

/-! ## One wanted snapshot after the other -/

/-- Attach one wanted snapshot at an index, behind the last snapshot if there is none. -/
def attachAt (snapshots : List Snapshot) (index : Nat) (w : DesignSnapshot) : List Snapshot :=
  match snapshots[index]? with
  | some s => snapshots.set index (s.withHint w.hint)
  | none => snapshots ++ [(Snapshot.ofName w.name).withHint w.hint]

theorem attachAt_cons_succ (s : Snapshot) (snapshots : List Snapshot) (index : Nat)
    (w : DesignSnapshot) :
    attachAt (s :: snapshots) (index + 1) w = s :: attachAt snapshots index w := by
  unfold attachAt
  rw [List.getElem?_cons_succ]
  cases snapshots[index]? <;> rfl

theorem attachAt_length (snapshots : List Snapshot) (w : DesignSnapshot) :
    attachAt snapshots snapshots.length w =
      snapshots ++ [(Snapshot.ofName w.name).withHint w.hint] := by
  unfold attachAt
  rw [List.getElem?_eq_none (Nat.le_refl _)]

@[simp] theorem attachHints_nil (snapshots : List Snapshot) :
    attachHints snapshots [] = snapshots := by
  cases snapshots <;> rfl

/-- What a longer design does is one step more, at the index where the shorter one ends. -/
theorem attachHints_concat (snapshots : List Snapshot) (wanted : List DesignSnapshot)
    (w : DesignSnapshot) :
    attachHints snapshots (wanted ++ [w]) =
      attachAt (attachHints snapshots wanted) wanted.length w := by
  induction snapshots generalizing wanted with
  | nil =>
      cases wanted with
      | nil => rfl
      | cons first rest =>
          have hend := attachAt_length (attachHints [] (first :: rest)) w
          rw [length_attachHints, List.length_nil, Nat.zero_max] at hend
          rw [hend]
          simp [attachHints]
  | cons s snapshots ih =>
      cases wanted with
      | nil => simp [attachHints, attachAt]
      | cons first rest =>
          rw [List.cons_append, attachHints, attachHints, List.length_cons, attachAt_cons_succ,
            ih rest]

theorem attachHints_eq_foldl (snapshots : List Snapshot) (wanted : List DesignSnapshot) :
    attachHints snapshots wanted =
      wanted.zipIdx.foldl (fun kept entry => attachAt kept entry.2 entry.1) snapshots := by
  -- After any number of steps the snapshots are those that a design of so many would give.
  induction wanted using List.reverseRecOn with
  | nil => simp
  | append_singleton wanted w ih =>
      rw [attachHints_concat, ih, List.zipIdx_append, List.foldl_append]
      simp

/-! ## Hints given twice -/

theorem hintedSnapshot_hintedSnapshot (snapshot : Option Snapshot)
    (wanted : Option DesignSnapshot) :
    hintedSnapshot (hintedSnapshot snapshot wanted) wanted = hintedSnapshot snapshot wanted := by
  cases snapshot <;> cases wanted <;> rfl

/-- A second hint hides the first, as long as there is a second one wherever there was a first. -/
theorem hint_hintedSnapshot (snapshot : Option Snapshot) {first second : Option DesignSnapshot}
    (h : second = none → first = none) :
    (hintedSnapshot (hintedSnapshot snapshot first) second).map (·.hint) =
      (hintedSnapshot snapshot second).map (·.hint) := by
  cases second with
  | none =>
      rw [h rfl]
      cases snapshot <;> rfl
  | some w => cases snapshot <;> cases first <;> rfl

/-! ## What is held afterwards -/

namespace Snapshot

/-- A snapshot as it is without a hint: its name and the device's data. -/
def withoutHint (s : Snapshot) : Snapshot :=
  { s with hint := none }

theorem eq_of_withoutHint {s s' : Snapshot} (hdata : s'.withoutHint = s.withoutHint)
    (hhint : s'.hint = s.hint) : s' = s := by
  cases s
  cases s'
  simp only [withoutHint, Snapshot.mk.injEq, and_true] at hdata
  simp_all

end Snapshot

namespace Rig

variable {ν : Type}

/--
What it means that a rig is another one with a design attached.  Below the
number of snapshots of the design the hints are the design's, and from there on
they are those of the rig.  Below the number of snapshots of the rig all else is
the rig's own, and from there on there is a name of the design and nothing else.
-/
structure IsWithDesign (r : Rig ν) (d : Design) (r' : Rig ν) : Prop where
  length_eq : r'.snapshots.length = max r.snapshots.length d.snapshots.length
  hint_of_design : ∀ index w s', d.snapshots[index]? = some w → r'.snapshot? index = some s' →
    s'.hint = some ⟨w.activeBlocks, w.params, w.guitarModel, w.tuning⟩
  hint_of_rig : ∀ index s s', d.snapshots.length ≤ index → r.snapshot? index = some s →
    r'.snapshot? index = some s' → s'.hint = s.hint
  data_of_rig : ∀ index s s', r.snapshot? index = some s → r'.snapshot? index = some s' →
    s'.withoutHint = s.withoutHint
  data_of_design : ∀ index w s', r.snapshots.length ≤ index → d.snapshots[index]? = some w →
    r'.snapshot? index = some s' → s'.withoutHint = Snapshot.ofName w.name
  rest_eq : r' = { r with snapshots := r'.snapshots }

theorem isWithDesign_withDesign (r : Rig ν) (d : Design) : r.IsWithDesign d (r.withDesign d) where
  length_eq := length_attachHints r.snapshots d.snapshots
  hint_of_design := by
    intro index w s' hw hs'
    rw [snapshot?_withDesign, hw] at hs'
    cases hs : r.snapshot? index <;> rw [hs] at hs' <;> cases hs' <;> rfl
  hint_of_rig := by
    intro index s s' hbeyond hs hs'
    rw [snapshot?_withDesign, hs, List.getElem?_eq_none hbeyond] at hs'
    cases hs'
    rfl
  data_of_rig := by
    intro index s s' hs hs'
    rw [snapshot?_withDesign, hs] at hs'
    cases hw : d.snapshots[index]? <;> rw [hw] at hs' <;> cases hs' <;> rfl
  data_of_design := by
    intro index w s' hbeyond hw hs'
    rw [snapshot?_withDesign, snapshot?_eq_none_iff.2 hbeyond, hw] at hs'
    cases hs'
    rfl
  rest_eq := rfl

namespace IsWithDesign

variable {r r' : Rig ν} {d : Design}

theorem snapshot?_eq (h : r.IsWithDesign d r') (index : Nat) :
    r'.snapshot? index = hintedSnapshot (r.snapshot? index) d.snapshots[index]? := by
  cases hs' : r'.snapshot? index with
  | none =>
      have hbeyond := snapshot?_eq_none_iff.1 hs'
      rw [h.length_eq] at hbeyond
      rw [snapshot?_eq_none_iff.2 (by omega), List.getElem?_eq_none (by omega)]
      rfl
  | some s' =>
      cases hs : r.snapshot? index with
      | none =>
          cases hw : d.snapshots[index]? with
          | none =>
              -- Both lists end before the index, so the attached one does.
              have hlt : index < r'.snapshots.length := (List.getElem?_eq_some_iff.1 hs').1
              have hrig := snapshot?_eq_none_iff.1 hs
              have hdesign := List.getElem?_eq_none_iff.1 hw
              rw [h.length_eq] at hlt
              omega
          | some w =>
              have hdata := h.data_of_design index w s' (snapshot?_eq_none_iff.1 hs) hw hs'
              have hhint := h.hint_of_design index w s' hw hs'
              exact congrArg some (Snapshot.eq_of_withoutHint hdata hhint)
      | some s =>
          have hdata := h.data_of_rig index s s' hs hs'
          cases hw : d.snapshots[index]? with
          | none =>
              have hhint := h.hint_of_rig index s s' (List.getElem?_eq_none_iff.1 hw) hs hs'
              exact congrArg some (Snapshot.eq_of_withoutHint hdata hhint)
          | some w =>
              have hhint := h.hint_of_design index w s' hw hs'
              exact congrArg some (Snapshot.eq_of_withoutHint hdata hhint)

/-- What is said index by index leaves one rig. -/
theorem eq_withDesign (h : r.IsWithDesign d r') : r' = r.withDesign d := by
  have hsnapshots : r'.snapshots = (r.withDesign d).snapshots := by
    apply List.ext_getElem?
    intro index
    have hattached := r.snapshot?_withDesign d index
    exact (h.snapshot?_eq index).trans hattached.symm
  rw [h.rest_eq, hsnapshots]
  rfl

end IsWithDesign

/-! ## Designs attached one after the other -/

theorem withDesign_withDesign (r : Rig ν) (d : Design) :
    (r.withDesign d).withDesign d = r.withDesign d := by
  have hsnapshots : ((r.withDesign d).withDesign d).snapshots = (r.withDesign d).snapshots := by
    apply List.ext_getElem?
    intro index
    have hfirst := r.snapshot?_withDesign d index
    have hsecond := (r.withDesign d).snapshot?_withDesign d index
    rw [hfirst, hintedSnapshot_hintedSnapshot, ← hfirst] at hsecond
    exact hsecond
  exact congrArg (fun snapshots => { r with snapshots := snapshots }) hsnapshots

theorem hints_withDesign_withDesign (r : Rig ν) {d e : Design}
    (h : d.snapshots.length ≤ e.snapshots.length) :
    ((r.withDesign d).withDesign e).snapshots.map (·.hint) =
      (r.withDesign e).snapshots.map (·.hint) := by
  apply List.ext_getElem?
  intro index
  have hends : e.snapshots[index]? = none → d.snapshots[index]? = none := by
    intro hnone
    have hbeyond := List.getElem?_eq_none_iff.1 hnone
    exact List.getElem?_eq_none (by omega)
  rw [List.getElem?_map, List.getElem?_map]
  calc
    (((r.withDesign d).withDesign e).snapshot? index).map (·.hint) =
        (hintedSnapshot (hintedSnapshot (r.snapshot? index) d.snapshots[index]?)
          e.snapshots[index]?).map (·.hint) := by
      rw [(r.withDesign d).snapshot?_withDesign e, r.snapshot?_withDesign d]
    _ = (hintedSnapshot (r.snapshot? index) e.snapshots[index]?).map (·.hint) :=
        hint_hintedSnapshot (r.snapshot? index) hends
    _ = ((r.withDesign e).snapshot? index).map (·.hint) := by
      rw [r.snapshot?_withDesign e]

/--
Attaching a design goes index by index, and the rig that it gives is the only
one that holds what it should.  It is a run over the snapshots of the design.
Attaching the same design again changes nothing, and after a design that is at
least as long the hints are as if it had come alone.
-/
theorem designs_attach_by_index (r : Rig ν) (d : Design) :
    r.IsWithDesign d (r.withDesign d) ∧
    (∀ r', r.IsWithDesign d r' → r' = r.withDesign d) ∧
    (r.withDesign d).snapshots =
      d.snapshots.zipIdx.foldl (fun kept entry => attachAt kept entry.2 entry.1) r.snapshots ∧
    (r.withDesign d).withDesign d = r.withDesign d ∧
    ∀ e : Design, d.snapshots.length ≤ e.snapshots.length →
      ((r.withDesign d).withDesign e).snapshots.map (·.hint) =
        (r.withDesign e).snapshots.map (·.hint) := by
  refine ⟨r.isWithDesign_withDesign d, ?_, ?_, r.withDesign_withDesign d, ?_⟩
  · intro r' h
    exact h.eq_withDesign
  · exact attachHints_eq_foldl r.snapshots d.snapshots
  · intro e h
    exact r.hints_withDesign_withDesign h

/-- A second design of the same length, which names its snapshots otherwise. -/
def songDesign : Design :=
  { boostDesign with
    snapshots :=
      [⟨"Verse", ["reverb"], none, none, Table.empty⟩,
        ⟨"Chorus", [], some "Acoustic", none, Table.empty⟩] }

/-- The name that the first design gave to a new snapshot stays, although its hint does not. -/
theorem designs_attach_by_index_song :
    let lead := (Snapshot.ofName "Lead").withBlockEnabled .path0 "a" false
    let hinted := oneBlockRig
      [lead.withHint ⟨["boost"], Table.empty, none, none⟩,
        (Snapshot.ofName "Ambient").withHint ⟨["reverb"], Table.empty, none, none⟩]
    let both := hinted.withDesign songDesign
    (oneBlockRig [lead]).IsWithDesign boostDesign hinted ∧
      hinted = (oneBlockRig [lead]).withDesign boostDesign ∧
      boostDesign.snapshots.length ≤ songDesign.snapshots.length ∧
      both.snapshots.map (·.hint) =
        ((oneBlockRig [lead]).withDesign songDesign).snapshots.map (·.hint) ∧
      both.snapshots.map (·.name) = ["Lead", "Ambient"] := by
  intro lead hinted both
  have hhinted : (oneBlockRig [lead]).IsWithDesign boostDesign hinted :=
    isWithDesign_withDesign (oneBlockRig [lead]) boostDesign
  have hlength : boostDesign.snapshots.length ≤ songDesign.snapshots.length := by decide
  obtain ⟨-, honly, -, -, hhints⟩ := designs_attach_by_index (oneBlockRig [lead]) boostDesign
  exact ⟨hhinted, honly hinted hhinted, hlength, hhints songDesign hlength, rfl⟩

end Rig

end SignalChain
