import Mathlib.Data.List.Perm.Subperm
import SignalChain.Proofs.Chain.View
import SignalChain.Proofs.Rig.Cost
import SignalChain.Proofs.Rig.Warnings

/-!
# What the validation reports

The report of a rig that has a path, said of the look-ups of the rig alone.  Its
warnings come in four groups.  Each group has one warning for each thing that is
wrong and none besides, so a report without warnings says that nothing is.  Of
the positions the blocks are collected in one walk over a path; what the walk
has collected at a position are the keys seen there so far.
-/

namespace SignalChain

/-! ## Keys in order -/

theorem Table.toList_pairwise_bytes {α : Type} (t : Table String α) :
    t.toList.Pairwise (fun a b => Text.bytes a.1 < Text.bytes b.1) :=
  t.ordered.imp fun h => Text.compare_eq_lt_iff_bytes_lt.1 h

theorem PerPath.toList_pairwise_bytes {α : Type} (m : PerPath α) :
    m.toList.Pairwise (fun a b =>
      a.1.index < b.1.index ∨ a.1 = b.1 ∧ Text.bytes a.2.1 < Text.bytes b.2.1) := by
  have hpaths : m.toList = m.path0.toList.map (fun entry => (DspPath.path0, entry)) ++
      m.path1.toList.map (fun entry => (DspPath.path1, entry)) := by
    simp [toList, DspPath.all, onPath]
  rw [hpaths]
  refine List.pairwise_append.2 ⟨?_, ?_, ?_⟩
  · exact List.pairwise_map.2 (m.path0.toList_pairwise_bytes.imp fun hlt => Or.inr ⟨rfl, hlt⟩)
  · exact List.pairwise_map.2 (m.path1.toList_pairwise_bytes.imp fun hlt => Or.inr ⟨rfl, hlt⟩)
  · intro a ha b hb
    obtain ⟨_, -, rfl⟩ := List.mem_map.1 ha
    obtain ⟨_, -, rfl⟩ := List.mem_map.1 hb
    exact Or.inl Nat.zero_lt_one

/-- A list that ascends is known by its members. -/
theorem Text.eq_of_mem_iff {keys others : List String}
    (hkeys : keys.Pairwise (fun k l => bytes k < bytes l))
    (hothers : others.Pairwise (fun k l => bytes k < bytes l))
    (h : ∀ key, key ∈ keys ↔ key ∈ others) : keys = others := by
  have hnodup : ∀ {ks : List String}, ks.Pairwise (fun k l => bytes k < bytes l) → ks.Nodup := by
    intro ks hks
    refine hks.imp ?_
    rintro k l hlt rfl
    exact List.lt_irrefl _ hlt
  have hperm := (List.perm_ext_iff_of_nodup (hnodup hkeys) (hnodup hothers)).2 h
  exact hperm.eq_of_pairwise (fun k l _ _ hkl hlk => absurd hlk (List.lt_asymm hkl)) hkeys hothers

theorem nodup_eraseDups {α : Type} [BEq α] [LawfulBEq α] (as : List α) : as.eraseDups.Nodup := by
  cases as with
  | nil => simp
  | cons a rest =>
      rw [List.eraseDups_cons, List.nodup_cons]
      refine ⟨?_, nodup_eraseDups (rest.filter (fun b => !b == a))⟩
      simp [List.mem_eraseDups]
termination_by as.length
decreasing_by exact Nat.lt_succ_of_le (List.length_filter_le _ rest)

/-! ## The order of warnings -/

/-- Which of two warnings of one group comes first, by path and position or key, or by model. -/
def Warning.Precedes {ν : Type} : Warning ν → Warning ν → Prop
  | .duplicatePosition p x _, .duplicatePosition q y _ =>
      p.index < q.index ∨ p = q ∧ x.toInt < y.toInt
  | .unknownControllerBlock p k, .unknownControllerBlock q l =>
      p.index < q.index ∨ p = q ∧ Text.bytes k < Text.bytes l
  | .invalidCost m _, .invalidCost n _ => Text.bytes m < Text.bytes n
  | _, _ => False

namespace Rig

variable {ν : Type}

/-! ## Blocks at one position -/

/-- The keys of the blocks at a position, in order. -/
def keysAt (blocks : Table String Block) (position : Int32) : List String :=
  (blocks.toList.filter (fun entry => decide (entry.2.position = position))).map (·.1)

/-- Add a block to the keys that were collected by position. -/
def collectKey (t : Table Int32 (List String)) (entry : String × Block) :
    Table Int32 (List String) :=
  t.insert entry.2.position ((t.get? entry.2.position).getD [] ++ [entry.1])

theorem getD_get?_foldl_collectKey (entries : List (String × Block))
    (t : Table Int32 (List String)) (position : Int32) :
    ((entries.foldl collectKey t).get? position).getD [] =
      (t.get? position).getD [] ++
        (entries.filter (fun entry => decide (entry.2.position = position))).map (·.1) := by
  induction entries generalizing t with
  | nil => simp
  | cons entry entries ih =>
      rw [List.foldl_cons, ih]
      by_cases h : position = entry.2.position
      · subst h
        simp [collectKey]
      · simp [collectKey, h, Ne.symm h]

/-- Nothing is collected at a position but the keys of its blocks. -/
theorem getD_get?_keysByPosition (blocks : Table String Block) (position : Int32) :
    ((keysByPosition blocks).get? position).getD [] = keysAt blocks position := by
  have h := getD_get?_foldl_collectKey blocks.toList Table.empty position
  rw [Table.get?_empty, Option.getD_none, List.nil_append] at h
  exact h

theorem mem_keysByPosition_iff {blocks : Table String Block} {position : Int32}
    {keys : List String} (hkeys : keys ≠ []) :
    (position, keys) ∈ (keysByPosition blocks).toList ↔ keys = keysAt blocks position := by
  rw [Table.mem_toList_iff, ← getD_get?_keysByPosition]
  cases (keysByPosition blocks).get? position with
  | none => simp [hkeys]
  | some others => simp [eq_comm]

/-- The keys of all blocks at a position of a path, in ascending order. -/
structure ListsKeysAt (r : Rig ν) (path : DspPath) (position : Int32) (keys : List String) :
    Prop where
  mem_iff : ∀ key, key ∈ keys ↔
    ∃ block, r.block? path key = some block ∧ block.position = position
  ascending : keys.Pairwise (fun k l => Text.bytes k < Text.bytes l)

theorem listsKeysAt_keysAt {r : Rig ν} {path : DspPath} {blocks : Table String Block}
    (h : r.path? path = some blocks) (position : Int32) :
    r.ListsKeysAt path position (keysAt blocks position) where
  mem_iff key := by
    simp only [keysAt, List.mem_map, List.mem_filter, decide_eq_true_eq, block?, h,
      Option.bind_some, ← Table.mem_toList_iff]
    constructor
    · rintro ⟨⟨k, block⟩, ⟨hmem, hposition⟩, rfl⟩
      exact ⟨block, hmem, hposition⟩
    · rintro ⟨block, hmem, hposition⟩
      exact ⟨(key, block), ⟨hmem, hposition⟩, rfl⟩
  ascending := List.pairwise_map.2 (blocks.toList_pairwise_bytes.filter _)

theorem listsKeysAt_iff {r : Rig ν} {path : DspPath} {blocks : Table String Block}
    (h : r.path? path = some blocks) {position : Int32} {keys : List String} :
    r.ListsKeysAt path position keys ↔ keys = keysAt blocks position := by
  have hlists := listsKeysAt_keysAt h position
  constructor
  · intro hkeys
    refine Text.eq_of_mem_iff hkeys.ascending hlists.ascending fun key => ?_
    rw [hkeys.mem_iff, hlists.mem_iff]
  · rintro rfl
    exact hlists

theorem mem_positionWarnings_iff {r : Rig ν} {path : DspPath} {warning : Warning ν} :
    warning ∈ r.positionWarnings path ↔
      ∃ position keys, warning = .duplicatePosition path position keys ∧ 2 ≤ keys.length ∧
        r.ListsKeysAt path position keys := by
  unfold positionWarnings
  cases hpath : r.path? path with
  | none =>
      have hblock : ∀ key, r.block? path key = none := fun key => by simp [block?, hpath]
      refine ⟨fun hmem => absurd hmem List.not_mem_nil, ?_⟩
      rintro ⟨position, keys, -, hlength, hlists⟩
      obtain ⟨key, hkey⟩ := List.exists_mem_of_length_pos (l := keys) (by omega)
      obtain ⟨block, hget, -⟩ := (hlists.mem_iff key).1 hkey
      rw [hblock key] at hget
      cases hget
  | some blocks =>
      simp only [List.mem_map, List.mem_filter, decide_eq_true_eq, Prod.exists,
        listsKeysAt_iff hpath]
      constructor
      · rintro ⟨position, keys, ⟨hmem, hlength⟩, rfl⟩
        have hne : keys ≠ [] := List.ne_nil_of_length_pos (by omega)
        exact ⟨position, keys, rfl, hlength, (mem_keysByPosition_iff hne).1 hmem⟩
      · rintro ⟨position, keys, rfl, hlength, hkeys⟩
        have hne : keys ≠ [] := List.ne_nil_of_length_pos (by omega)
        exact ⟨position, keys, ⟨(mem_keysByPosition_iff hne).2 hkeys, hlength⟩, rfl⟩

theorem positionWarnings_precedes (r : Rig ν) (path : DspPath) :
    (r.positionWarnings path).Pairwise Warning.Precedes := by
  unfold positionWarnings
  cases r.path? path with
  | none => exact .nil
  | some blocks =>
      refine List.pairwise_map.2 (((keysByPosition blocks).ordered.filter _).imp ?_)
      intro a b hlt
      exact Or.inr ⟨rfl, Int32.lt_iff_toInt_lt.1 (compareOfLessAndEq_eq_lt.1 hlt)⟩

/-! ## The four groups -/

/-- One warning for each position that several blocks of a path share. -/
structure ReportsPositions (r : Rig ν) (warnings : List (Warning ν)) : Prop where
  mem_iff : ∀ warning, warning ∈ warnings ↔ ∃ path position keys,
    warning = .duplicatePosition path position keys ∧ 2 ≤ keys.length ∧
      r.ListsKeysAt path position keys
  ordered : warnings.Pairwise Warning.Precedes

/-- One warning for each block that a snapshot names and the rig does not store. -/
structure ReportsSnapshot (r : Rig ν) (s : Snapshot) (warnings : List (Warning ν)) : Prop where
  mem_iff : ∀ warning, warning ∈ warnings ↔ ∃ path key,
    warning = .unknownSnapshotBlock s.name path key ∧ s.Names path key ∧
      r.block? path key = none
  nodup : warnings.Nodup

/-- One warning for each block that the controllers name and the rig does not store. -/
structure ReportsControllers (r : Rig ν) (warnings : List (Warning ν)) : Prop where
  mem_iff : ∀ warning, warning ∈ warnings ↔ ∃ path key,
    warning = .unknownControllerBlock path key ∧ (r.controllers.block? path key).isSome ∧
      r.block? path key = none
  ordered : warnings.Pairwise Warning.Precedes

/-- One warning for each cost that is negative, infinite or no number. -/
structure ReportsCosts (r : Rig Float) (warnings : List (Warning Float)) : Prop where
  mem_iff : ∀ warning, warning ∈ warnings ↔ ∃ model cost,
    warning = .invalidCost model cost ∧ r.costs.get? model = some cost ∧
      (cost < 0 ∨ cost.isInf = true ∨ cost.isNaN = true)
  ordered : warnings.Pairwise Warning.Precedes

theorem reportsPositions (r : Rig ν) :
    r.ReportsPositions (DspPath.all.flatMap r.positionWarnings) where
  mem_iff warning := by
    rw [List.mem_flatMap]
    constructor
    · rintro ⟨path, -, hmem⟩
      exact ⟨path, mem_positionWarnings_iff.1 hmem⟩
    · rintro ⟨path, hwarning⟩
      exact ⟨path, by cases path <;> simp [DspPath.all], mem_positionWarnings_iff.2 hwarning⟩
  ordered := by
    have hpaths : DspPath.all.flatMap r.positionWarnings =
        r.positionWarnings .path0 ++ r.positionWarnings .path1 := by
      simp [DspPath.all]
    rw [hpaths]
    refine List.pairwise_append.2
      ⟨r.positionWarnings_precedes _, r.positionWarnings_precedes _, ?_⟩
    intro a ha b hb
    obtain ⟨x, keys, rfl, -⟩ := mem_positionWarnings_iff.1 ha
    obtain ⟨y, others, rfl, -⟩ := mem_positionWarnings_iff.1 hb
    exact Or.inl Nat.zero_lt_one

theorem reportsSnapshot (r : Rig ν) (s : Snapshot) :
    r.ReportsSnapshot s (r.snapshotWarnings s) where
  mem_iff warning := by
    constructor
    · intro hmem
      have hkind : ∃ path key, warning = .unknownSnapshotBlock s.name path key := by
        obtain ⟨⟨path, key⟩, -, heq⟩ := List.mem_map.1 hmem
        exact ⟨path, key, heq.symm⟩
      obtain ⟨path, key, rfl⟩ := hkind
      exact ⟨path, key, rfl, (mem_snapshotWarnings_iff.1 hmem).2⟩
    · rintro ⟨path, key, rfl, hwarned⟩
      exact mem_snapshotWarnings_iff.2 ⟨rfl, hwarned⟩
  nodup := by
    refine (nodup_eraseDups _).map ?_
    rintro ⟨p, k⟩ ⟨q, l⟩ heq
    obtain ⟨-, rfl, rfl⟩ := Warning.unknownSnapshotBlock.inj heq
    rfl

theorem reportsControllers (r : Rig ν) : r.ReportsControllers r.controllerWarnings where
  mem_iff warning := by
    have hmissing : ∀ path key, (!r.hasBlock (path, key)) = true ↔ r.block? path key = none := by
      simp [hasBlock]
    simp only [controllerWarnings, List.mem_map (f := fun target : DspPath × String =>
      Warning.unknownControllerBlock target.1 target.2), List.mem_filter, Prod.exists,
      PerPath.mem_targets_iff, hmissing]
    constructor
    · rintro ⟨path, key, hwarned, rfl⟩
      exact ⟨path, key, rfl, hwarned⟩
    · rintro ⟨path, key, rfl, hwarned⟩
      exact ⟨path, key, hwarned, rfl⟩
  ordered := by
    exact List.pairwise_map.2
      (List.Pairwise.filter _ (List.pairwise_map.2 r.controllers.blocks.toList_pairwise_bytes))

theorem reportsCosts (r : Rig Float) : r.ReportsCosts r.costWarnings where
  mem_iff warning := by
    simp only [costWarnings, List.mem_map, List.mem_filter, Prod.exists, Table.mem_toList_iff,
      Bool.not_eq_true', CostTable.isUsable_eq_false_iff]
    constructor
    · rintro ⟨model, cost, ⟨hget, hcost⟩, rfl⟩
      exact ⟨model, cost, rfl, hget, hcost⟩
    · rintro ⟨model, cost, rfl, hget, hcost⟩
      exact ⟨model, cost, ⟨hget, hcost⟩, rfl⟩
  ordered := List.pairwise_map.2 (r.costs.toList_pairwise_bytes.filter _)

/--
What it means that a list of warnings is the report of a rig: the groups follow
each other, with those of the snapshots in the order of the snapshots.
-/
structure IsReport (r : Rig Float) (warnings : List (Warning Float)) : Prop where
  groups : ∃ positions snapshots controllers costs,
    warnings = positions ++ snapshots.flatten ++ controllers ++ costs ∧
      r.ReportsPositions positions ∧ List.Forall₂ r.ReportsSnapshot r.snapshots snapshots ∧
      r.ReportsControllers controllers ∧ r.ReportsCosts costs

theorem warnings_isReport (r : Rig Float) : r.IsReport r.warnings where
  groups := by
    refine ⟨_, r.snapshots.map r.snapshotWarnings, _, _, ?_, r.reportsPositions, ?_,
      r.reportsControllers, r.reportsCosts⟩
    · rw [warnings, List.flatMap_def (l := r.snapshots)]
    · rw [List.forall₂_map_right_iff, List.forall₂_same]
      exact fun s _ => r.reportsSnapshot s

/-! ## Rigs without warnings -/

/-- Nothing is odd about a rig. -/
structure IsClean (r : Rig Float) : Prop where
  positions : ∀ path key other block block', r.block? path key = some block →
    r.block? path other = some block' → key ≠ other → block.position ≠ block'.position
  snapshots : ∀ s ∈ r.snapshots, ∀ path key, s.Names path key → (r.block? path key).isSome
  controllers : ∀ path key, (r.controllers.block? path key).isSome → (r.block? path key).isSome
  costs : ∀ model cost, r.costs.get? model = some cost → cost.isFinite = true ∧ 0 ≤ cost

theorem positions_eq_nil_iff {r : Rig ν} {warnings : List (Warning ν)}
    (h : r.ReportsPositions warnings) :
    warnings = [] ↔ ∀ path key other block block', r.block? path key = some block →
      r.block? path other = some block' → key ≠ other → block.position ≠ block'.position := by
  rw [List.eq_nil_iff_forall_not_mem]
  constructor
  · intro hnone path key other block block' hkey hother hne hposition
    have hpath : ∃ blocks, r.path? path = some blocks := by
      obtain ⟨blocks, hblocks, -⟩ := Option.bind_eq_some_iff.1 hkey
      exact ⟨blocks, hblocks⟩
    obtain ⟨blocks, hblocks⟩ := hpath
    have hlists := listsKeysAt_keysAt hblocks block.position
    have hlength : 2 ≤ (keysAt blocks block.position).length := by
      have hpair : [key, other].Subperm (keysAt blocks block.position) := by
        refine List.subperm_of_subset (by simpa using hne) ?_
        intro k hk
        rcases List.mem_pair.1 hk with rfl | rfl
        · exact (hlists.mem_iff _).2 ⟨block, hkey, rfl⟩
        · exact (hlists.mem_iff _).2 ⟨block', hother, hposition.symm⟩
      exact hpair.length_le
    exact hnone _ ((h.mem_iff _).2 ⟨path, block.position, _, rfl, hlength, hlists⟩)
  · intro hdistinct warning hmem
    obtain ⟨path, position, keys, -, hlength, hlists⟩ := (h.mem_iff warning).1 hmem
    match keys with
    | [] => simp at hlength
    | [_] => simp at hlength
    | key :: other :: rest =>
        obtain ⟨block, hkey, hposition⟩ := (hlists.mem_iff key).1 (by simp)
        obtain ⟨block', hother, hposition'⟩ := (hlists.mem_iff other).1 (by simp)
        have hne : key ≠ other := by
          rintro rfl
          have hlt := (List.pairwise_cons.1 hlists.ascending).1 key (by simp)
          exact List.lt_irrefl _ hlt
        exact hdistinct path key other block block' hkey hother hne
          (hposition.trans hposition'.symm)

theorem warnings_eq_nil_iff {r : Rig Float} : r.warnings = [] ↔ r.IsClean := by
  have hsnapshots : r.snapshots.flatMap r.snapshotWarnings = [] ↔
      ∀ s ∈ r.snapshots, ∀ path key, s.Names path key → (r.block? path key).isSome := by
    rw [List.flatMap_eq_nil_iff]
    refine forall₂_congr fun s _ => ?_
    rw [List.eq_nil_iff_forall_not_mem]
    constructor
    · intro hnone path key hnames
      by_contra hmissing
      refine hnone _ (((r.reportsSnapshot s).mem_iff _).2 ⟨path, key, rfl, hnames, ?_⟩)
      simpa using hmissing
    · intro hall warning hmem
      obtain ⟨path, key, -, hnames, hmissing⟩ := ((r.reportsSnapshot s).mem_iff _).1 hmem
      simpa [hmissing] using hall path key hnames
  have hcontrollers : r.controllerWarnings = [] ↔
      ∀ path key, (r.controllers.block? path key).isSome → (r.block? path key).isSome := by
    rw [List.eq_nil_iff_forall_not_mem]
    constructor
    · intro hnone path key hnames
      by_contra hmissing
      refine hnone _ ((r.reportsControllers.mem_iff _).2 ⟨path, key, rfl, hnames, ?_⟩)
      simpa using hmissing
    · intro hall warning hmem
      obtain ⟨path, key, -, hnames, hmissing⟩ := (r.reportsControllers.mem_iff _).1 hmem
      simpa [hmissing] using hall path key hnames
  have hcosts : r.costWarnings = [] ↔
      ∀ model cost, r.costs.get? model = some cost → cost.isFinite = true ∧ 0 ≤ cost := by
    simp only [costWarnings, List.map_eq_nil_iff, List.filter_eq_nil_iff, Prod.forall,
      Table.mem_toList_iff, Bool.not_eq_true', Bool.not_eq_false, CostTable.isUsable_iff]
  simp only [warnings, List.append_eq_nil_iff, positions_eq_nil_iff r.reportsPositions,
    hsnapshots, hcontrollers, hcosts]
  constructor
  · rintro ⟨⟨⟨hpositions, hsnapshots⟩, hcontrollers⟩, hcosts⟩
    exact ⟨hpositions, hsnapshots, hcontrollers, hcosts⟩
  · rintro ⟨hpositions, hsnapshots, hcontrollers, hcosts⟩
    exact ⟨⟨⟨hpositions, hsnapshots⟩, hcontrollers⟩, hcosts⟩

/-! ## The whole validation -/

/--
Only a rig without paths fails the validation.  Any other rig has a report with
exactly the warnings that it gives cause for, each once and in order, and the
report is empty exactly if nothing is odd about the rig.
-/
theorem validation_exact (r : Rig Float) :
    ((∃ error, r.validate = .error error) ↔ r.path0 = none ∧ r.path1 = none) ∧
      (r.HasPath → ∃ warnings, r.validate = .ok warnings ∧ r.IsReport warnings ∧
        (warnings = [] ↔ r.IsClean)) := by
  constructor
  · rw [← not_hasPath_iff]
    constructor
    · rintro ⟨error, herror⟩ h
      rw [validate_of_hasPath h] at herror
      cases herror
    · intro h
      exact ⟨_, validate_of_not_hasPath h⟩
  · intro h
    exact ⟨r.warnings, validate_of_hasPath h, r.warnings_isReport, warnings_eq_nil_iff⟩

/-- Three blocks at one position, a block named twice by a snapshot, and a cost that is no number. -/
def oddRig : Rig Float :=
  { (Rig.empty : Rig Float) with
    path0 := some (Table.ofList
      [("c", Block.ofModel "BassBoost"), ("a", Block.ofModel "BassBoost"),
        ("b", Block.ofModel "BassBoost")])
    snapshots :=
      [((Snapshot.ofName "Lead").withBlockEnabled .path1 "a" true).withParamValue
        .path1 "a" "Mix" 0.5]
    costs := Table.ofList [("BassBoost", 0 / 0)] }

example :
    oddRig.warnings =
      [.duplicatePosition .path0 0 ["a", "b", "c"], .unknownSnapshotBlock "Lead" .path1 "a",
        .invalidCost "BassBoost" (0 / 0)] := by
  rfl

theorem validation_exact_oddRig :
    oddRig.HasPath ∧ ∃ warnings, oddRig.validate = .ok warnings ∧ oddRig.IsReport warnings ∧
      (warnings = [] ↔ oddRig.IsClean) := by
  have hpath : oddRig.HasPath := Or.inl rfl
  exact ⟨hpath, (validation_exact oddRig).2 hpath⟩

end Rig

end SignalChain
