import SignalChain.Proofs.Rig.Resaved
import SignalChain.Proofs.Rig.Warnings

/-!
# When a written rig can be read

A rig can always be written as JSON, but infinities and NaN have no digits there.
Where a number must stand the rig is then not read back; a range only loses that
end.  The values that a hint carries along must not lie too deep, either.
-/

namespace SignalChain

open Document Record

/-! ## What a rig holds -/

namespace Rig

/-- A number of a rig that its views can show. -/
inductive HoldsNumber (r : Rig Float) : Float → Prop where
  | cost {model : String} {x : Float} : r.costs.get? model = some x → HoldsNumber r x
  | param {path : DspPath} {key name : String} {block : Block} {x : Float} :
      r.block? path key = some block → block.params.get? name = some (.number x) →
        HoldsNumber r x
  | setting {s : Snapshot} {path : DspPath} {key name : String} {x : Float} :
      s ∈ r.snapshots → s.paramValue? path key name = some x → HoldsNumber r x

variable {ν : Type}

/-- An assignment of a rig, to a block or to the instrument. -/
inductive Assigns (r : Rig ν) : Assignment → Prop where
  | block {path : DspPath} {key param : String} {a : Assignment} :
      r.controllers.get? path key param = some a → Assigns r a
  | instrument {param : String} {a : Assignment} :
      r.controllers.instrument.get? param = some a → Assigns r a

/-- A value that a hint of a rig gives for a parameter. -/
def HoldsPayload (r : Rig ν) (p : Payload) : Prop :=
  ∃ s ∈ r.snapshots, ∃ hint name, s.hint = some hint ∧ hint.params.get? name = some p

/-- All that is written of a rig can be read, the payloads below five lists and objects. -/
structure FitsJson (r : Rig Float) : Prop where
  numbers : ∀ x, r.HoldsNumber x → (rereadFloat? x).isSome
  ends : ∀ a, r.Assigns a → ∀ x, a.min = some x ∨ a.max = some x → x.isFinite = true →
    (rereadFloat? x).isSome
  payloads : ∀ p, r.HoldsPayload p → (resaved? 5 p).isSome

/-- The digits of the numbers that views show are read as the same numbers. -/
def KeepsNumbers (r : Rig Float) : Prop :=
  ∀ x, r.HoldsNumber x → rereadFloat? x = some x

/-- The numbers of a rig that its views can show, one after the other. -/
def numbers (r : Rig Float) : List Float :=
  let blocks : PerPath Block := ⟨r.path0.getD Table.empty, r.path1.getD Table.empty⟩
  let params := blocks.toList.flatMap (fun entry =>
    entry.2.2.params.toList.filterMap (fun param => param.2.number?))
  let settings := r.snapshots.flatMap (fun s =>
    (s.params.getD PerPath.empty).toList.flatMap (fun entry => entry.2.2.toList.map (·.2)))
  r.costs.toList.map (·.2) ++ params ++ settings

theorem mem_numbers_iff {r : Rig Float} {x : Float} : x ∈ r.numbers ↔ r.HoldsNumber x := by
  have hblock : ∀ path key,
      PerPath.get? ⟨r.path0.getD Table.empty, r.path1.getD Table.empty⟩ path key =
        r.block? path key := by
    intro path key
    cases path with
    | path0 =>
        show (r.path0.getD Table.empty).get? key = r.path0.bind _
        cases r.path0 <;> rfl
    | path1 =>
        show (r.path1.getD Table.empty).get? key = r.path1.bind _
        cases r.path1 <;> rfl
  have hnumber : ∀ p : ParamValue, p.number? = some x ↔ p = .number x := by
    intro p
    cases p <;> simp [ParamValue.number?]
  have hsetting : ∀ (s : Snapshot) path key,
      (∃ entries, (s.params.getD PerPath.empty).get? path key = some entries ∧
        ∃ name, entries.get? name = some x) ↔
      ∃ name, s.paramValue? path key name = some x := by
    intro s path key
    simp only [Snapshot.paramValue?]
    cases s.params with
    | none => cases path <;> simp [PerPath.get?, PerPath.empty, PerPath.onPath]
    | some m =>
        simp only [Option.getD_some, Option.bind_some, PerPath.getIn?, Option.bind_eq_some_iff]
        rw [exists_comm]
        simp only [exists_and_left]
  have hmem : x ∈ r.numbers ↔
      (∃ model, r.costs.get? model = some x) ∨
        (∃ path key block, r.block? path key = some block ∧
          ∃ name, block.params.get? name = some (.number x)) ∨
        ∃ s ∈ r.snapshots, ∃ path key name, s.paramValue? path key name = some x := by
    simp only [numbers, List.mem_append, List.mem_flatMap, List.mem_filterMap, List.mem_map,
      Prod.exists, Table.mem_toList_iff, PerPath.mem_toList_iff, hblock, hnumber, or_assoc,
      exists_eq_right, hsetting]
  rw [hmem]
  constructor
  · intro hx
    obtain ⟨model, hget⟩ | ⟨path, key, block, hblock, name, hget⟩ |
      ⟨s, hs, path, key, name, hget⟩ := hx
    · exact .cost hget
    · exact .param hblock hget
    · exact .setting hs hget
  · intro hx
    cases hx with
    | cost hget => exact Or.inl ⟨_, hget⟩
    | param hblock hget => exact Or.inr (Or.inl ⟨_, _, _, hblock, _, hget⟩)
    | setting hs hget => exact Or.inr (Or.inr ⟨_, hs, _, _, _, hget⟩)

instance (r : Rig Float) : Decidable r.KeepsNumbers :=
  decidable_of_iff (∀ x ∈ r.numbers, rereadFloat? x = some x) <|
    forall_congr' fun _ => imp_congr_left mem_numbers_iff

end Rig

/-! ## Part by part -/

theorem isSome_bind_iff {α β : Type} {o : Option α} {f : α → Option β} {p : Prop}
    (h : ∀ a, (f a).isSome ↔ p) : (o.bind f).isSome ↔ o.isSome ∧ p := by
  cases o with
  | none => simp
  | some a => simp [h]

theorem isSome_resavedIfSome?_iff {α : Type} [Record α] {level : Nat} {o : Option α} :
    (resavedIfSome? level o).isSome ↔ ∀ a, o = some a → (resaved? level a).isSome := by
  cases o with
  | none => simp [resavedIfSome?]
  | some a => simp [resavedIfSome?]

theorem isSome_resavedEnd?_iff {o : Option Float} :
    (resavedEnd? o).isSome ↔ ∀ x, o = some x → x.isFinite = true → (rereadFloat? x).isSome := by
  cases o with
  | none => simp [resavedEnd?]
  | some x => by_cases hx : x.isFinite = true <;> simp [resavedEnd?, hx]

variable {level : Nat}

theorem PerPath.isSome_resaved?_iff {α : Type} [Record α] (h : level < 126) {m : PerPath α} :
    (resaved? level m).isSome ↔
      ∀ path key a, m.get? path key = some a → (resaved? (level + 2) a).isSome := by
  rw [resaved?_eq h, isSome_bind_iff (p := (resaved? (level + 1) m.path1).isSome)
    fun path0 => by simp [Option.isSome_bind]]
  rw [isSome_resaved?_table_iff (by omega), isSome_resaved?_table_iff (by omega)]
  constructor
  · intro hread path
    cases path with
    | path0 => exact hread.1
    | path1 => exact hread.2
  · intro hread
    exact ⟨hread .path0, hread .path1⟩

theorem PerPath.isSome_resaved?_in_iff {α : Type} [Record α] (h : level < 124)
    {m : PerPath (Table String α)} :
    (resaved? level m).isSome ↔
      ∀ path key name a, m.getIn? path key name = some a → (resaved? (level + 3) a).isSome := by
  rw [PerPath.isSome_resaved?_iff (by omega)]
  constructor
  · intro hread path key name a hget
    obtain ⟨entries, hentries, ha⟩ := Option.bind_eq_some_iff.1 hget
    have htable := hread path key entries hentries
    rw [isSome_resaved?_table_iff (by omega)] at htable
    exact htable name a ha
  · intro hread path key entries hentries
    rw [isSome_resaved?_table_iff (by omega)]
    intro name a ha
    exact hread path key name a (Option.bind_eq_some_iff.2 ⟨entries, hentries, ha⟩)

theorem Block.isSome_resaved?_iff (h : level < 126) {b : Block} :
    (resaved? level b).isSome ↔
      ∀ name x, b.params.get? name = some (.number x) → (rereadFloat? x).isSome := by
  rw [resaved?_eq h, isSome_bind_iff (p := True) fun _ => by simp, and_true,
    isSome_resaved?_table_iff (by omega)]
  constructor
  · intro hread name x hget
    have hnumber := hread name _ hget
    rwa [ParamValue.resaved?_number, Option.isSome_map] at hnumber
  · intro hread name p hget
    cases p with
    | number x =>
        rw [ParamValue.resaved?_number, Option.isSome_map]
        exact hread name x hget
    | flag b => rfl
    | text s => rfl

theorem Assignment.isSome_resaved?_iff (h : level < 126) {a : Assignment} :
    (resaved? level a).isSome ↔
      ∀ x, a.min = some x ∨ a.max = some x → x.isFinite = true → (rereadFloat? x).isSome := by
  rw [resaved?_eq h, isSome_bind_iff (p := (resavedEnd? a.max).isSome)
    fun min => by simp [Option.isSome_bind]]
  rw [isSome_resavedEnd?_iff, isSome_resavedEnd?_iff]
  simp only [or_imp, forall_and]

theorem ControllerTable.isSome_resaved?_iff (h : level < 120) {t : ControllerTable} :
    (resaved? level t).isSome ↔
      (∀ path key param a, t.get? path key param = some a → (resaved? (level + 4) a).isSome) ∧
        ∀ param a, t.instrument.get? param = some a → (resaved? (level + 2) a).isSome := by
  rw [resaved?_eq (by omega), isSome_bind_iff (p := (resaved? (level + 1) t.instrument).isSome)
    fun blocks => by simp [Option.isSome_bind]]
  rw [PerPath.isSome_resaved?_in_iff (by omega), isSome_resaved?_table_iff (by omega)]
  rfl

theorem Hint.isSome_resaved?_iff (h : level < 126) {hint : Hint} :
    (resaved? level hint).isSome ↔
      ∀ name p, hint.params.get? name = some p → (resaved? (level + 2) p).isSome := by
  rw [resaved?_eq h, isSome_bind_iff (p := True) fun _ => by simp, and_true,
    isSome_resaved?_table_iff (by omega)]

theorem Snapshot.isSome_resaved?_iff (h : level < 120) {s : Snapshot} :
    (resaved? level s).isSome ↔
      (∀ path key name x, s.paramValue? path key name = some x → (rereadFloat? x).isSome) ∧
        ∀ hint, s.hint = some hint →
          ∀ name p, hint.params.get? name = some p → (resaved? (level + 3) p).isSome := by
  rw [resaved?_eq h, isSome_bind_iff (p := (resavedIfSome? (level + 1) s.hint).isSome)
    fun params => by simp [Option.isSome_bind]]
  rw [isSome_resavedIfSome?_iff, isSome_resavedIfSome?_iff]
  refine and_congr ?_ ?_
  · constructor
    · intro hread path key name x hget
      obtain ⟨m, hm, hx⟩ := Option.bind_eq_some_iff.1 hget
      have hvalues := (PerPath.isSome_resaved?_in_iff (by omega)).1 (hread m hm)
      rw [← resaved?_float]
      exact hvalues path key name x hx
    · intro hread m hm
      rw [PerPath.isSome_resaved?_in_iff (by omega)]
      intro path key name x hx
      rw [resaved?_float]
      exact hread path key name x (Option.bind_eq_some_iff.2 ⟨m, hm, hx⟩)
  · refine forall_congr' fun hint => imp_congr_right fun _ => ?_
    exact Hint.isSome_resaved?_iff (by omega)

/-! ## The rig -/

namespace Rig

theorem isSome_resaved?_path_iff (r : Rig Float) (path : DspPath) :
    (resavedIfSome? 1 (r.path? path)).isSome ↔
      ∀ key block name x, r.block? path key = some block →
        block.params.get? name = some (.number x) → (rereadFloat? x).isSome := by
  rw [isSome_resavedIfSome?_iff]
  constructor
  · intro hread key block name x hblock
    obtain ⟨blocks, hblocks, hget⟩ := Option.bind_eq_some_iff.1 hblock
    have htable := hread blocks hblocks
    rw [isSome_resaved?_table_iff (by omega)] at htable
    exact (Block.isSome_resaved?_iff (by omega)).1 (htable key block hget) name x
  · intro hread blocks hblocks
    rw [isSome_resaved?_table_iff (by omega)]
    intro key block hget
    rw [Block.isSome_resaved?_iff (by omega)]
    intro name x
    exact hread key block name x (Option.bind_eq_some_iff.2 ⟨blocks, hblocks, hget⟩)

theorem isSome_resaved?_parts_iff {r : Rig Float} :
    (resaved? 0 r).isSome ↔
      (resavedIfSome? 1 r.path0).isSome ∧ (resavedIfSome? 1 r.path1).isSome ∧
        (resaved? 1 r.controllers).isSome ∧ (resaved? 1 r.snapshots).isSome ∧
          (resaved? 1 r.costs).isSome := by
  rw [resaved?_eq]
  refine isSome_bind_iff fun path0 => isSome_bind_iff fun path1 => ?_
  refine isSome_bind_iff fun controllers => isSome_bind_iff fun snapshots => ?_
  rw [isSome_bind_iff (p := True) fun _ => by simp, and_true]

theorem isSome_resaved?_iff {r : Rig Float} : (resaved? 0 r).isSome ↔ r.FitsJson := by
  have hpath0 := r.isSome_resaved?_path_iff .path0
  have hpath1 := r.isSome_resaved?_path_iff .path1
  simp only [path?] at hpath0 hpath1
  rw [isSome_resaved?_parts_iff, hpath0, hpath1, ControllerTable.isSome_resaved?_iff (by omega),
    isSome_resaved?_list_iff (by omega), isSome_resaved?_table_iff (by omega)]
  simp only [Assignment.isSome_resaved?_iff (by omega : 1 + 4 < 126),
    Assignment.isSome_resaved?_iff (by omega : 1 + 2 < 126),
    Snapshot.isSome_resaved?_iff (by omega : 1 + 1 < 120), resaved?_float]
  constructor
  · intro hread
    obtain ⟨hpath0, hpath1, ⟨hblocks, hinstrument⟩, hsnapshots, hcosts⟩ := hread
    refine ⟨?_, ?_, ?_⟩
    · intro x hx
      cases hx with
      | cost hget => exact hcosts _ x hget
      | @param path key name block _ hblock hget =>
          cases path with
          | path0 => exact hpath0 key block name x hblock hget
          | path1 => exact hpath1 key block name x hblock hget
      | setting hs hget => exact (hsnapshots _ hs).1 _ _ _ x hget
    · intro a ha
      cases ha with
      | block hget => exact hblocks _ _ _ a hget
      | instrument hget => exact hinstrument _ a hget
    · intro p hp
      obtain ⟨s, hs, hint, name, hhint, hget⟩ := hp
      exact (hsnapshots s hs).2 hint hhint name p hget
  · intro hfits
    refine ⟨?_, ?_, ⟨?_, ?_⟩, ?_, ?_⟩
    · intro key block name x hblock hget
      exact hfits.numbers x (.param hblock hget)
    · intro key block name x hblock hget
      exact hfits.numbers x (.param hblock hget)
    · intro path key param a hget
      exact hfits.ends a (.block hget)
    · intro param a hget
      exact hfits.ends a (.instrument hget)
    · intro s hs
      refine ⟨fun path key name x hget => hfits.numbers x (.setting hs hget), ?_⟩
      intro hint hhint name p hget
      exact hfits.payloads p ⟨s, hs, hint, name, hhint, hget⟩
    · intro model x hget
      exact hfits.numbers x (.cost hget)

end Rig

end SignalChain
