import SignalChain.Proofs.Gather
import SignalChain.Proofs.Rig.Validation

/-!
# Costs from a catalog

A catalog fills in the models that a rig lists no cost for.  Which cost of a
model wins is settled before it is known whether that cost can be counted: an
own cost hides the catalog, and of the entries of the catalog the last hides the
others, even if it is then counted as nothing.
-/

namespace SignalChain

namespace CostTable

/-! ## The cost that wins -/

/-- The last entry that a catalog has for a model. -/
structure LastEntry (entries : List (CatalogEntry Float)) (model : String)
    (entry : CatalogEntry Float) : Prop where
  internalName_eq : entry.internalName = model
  last : ∃ before after, entries = before ++ entry :: after ∧
    ∀ later ∈ after, later.internalName ≠ model

/-- The cost that a rig and a catalog list for a model, whether or not it can be counted. -/
inductive Wins (own : CostTable Float) (entries : List (CatalogEntry Float)) (model : String) :
    Float → Prop where
  | own {cost : Float} (h : own.get? model = some cost) : Wins own entries model cost
  | unmeasured {entry : CatalogEntry Float} (h : own.get? model = none)
      (last : LastEntry entries model entry) (zero : (entry.monoCost == 0) = true) :
      Wins own entries model 3.0
  | measured {entry : CatalogEntry Float} (h : own.get? model = none)
      (last : LastEntry entries model entry) (nonzero : (entry.monoCost == 0) = false) :
      Wins own entries model entry.monoCost

/-- What a model is counted with once a catalog has been filled in. -/
inductive CountsAs (own : CostTable Float) (entries : List (CatalogEntry Float))
    (model : String) : Float → Prop where
  | own {cost : Float} (h : own.get? model = some cost) (finite : cost.isFinite = true)
      (nonneg : 0 ≤ cost) : CountsAs own entries model cost
  | unusableOwn {cost : Float} (h : own.get? model = some cost)
      (unusable : ¬ (cost.isFinite = true ∧ 0 ≤ cost)) : CountsAs own entries model 0
  | unmeasured {entry : CatalogEntry Float} (h : own.get? model = none)
      (last : LastEntry entries model entry) (zero : (entry.monoCost == 0) = true) :
      CountsAs own entries model 3.0
  | measured {entry : CatalogEntry Float} (h : own.get? model = none)
      (last : LastEntry entries model entry) (pos : 0 < entry.monoCost)
      (finite : entry.monoCost.isFinite = true) : CountsAs own entries model entry.monoCost
  | unusable {entry : CatalogEntry Float} (h : own.get? model = none)
      (last : LastEntry entries model entry)
      (unusable : entry.monoCost < 0 ∨ entry.monoCost.isFinite = false) :
      CountsAs own entries model 0
  | unlisted (h : own.get? model = none)
      (absent : ∀ entry ∈ entries, entry.internalName ≠ model) :
      CountsAs own entries model 0

variable {own : CostTable Float} {entries : List (CatalogEntry Float)} {model : String}

theorem get?_ofCatalog_eq_some_iff {cost : Float} :
    (ofCatalog entries).get? model = some cost ↔
      ∃ entry, LastEntry entries model entry ∧ catalogCost entry = cost := by
  rw [ofCatalog, Table.get?_ofList, Table.gather_second_eq_some_iff]
  constructor
  · rintro ⟨before, after, hsplit, hafter⟩
    obtain ⟨before, rest, rfl, rfl, hrest⟩ := List.map_eq_append_iff.1 hsplit
    obtain ⟨entry, after, rfl, hentry, rfl⟩ := List.map_eq_cons_iff.1 hrest
    obtain ⟨hname, hcost⟩ := Prod.mk.inj hentry
    refine ⟨entry, ⟨hname, before, after, rfl, ?_⟩, hcost⟩
    exact fun later hlater => hafter _ (List.mem_map_of_mem hlater)
  · rintro ⟨entry, ⟨rfl, before, after, rfl, hafter⟩, rfl⟩
    refine ⟨_, _, List.map_append, ?_⟩
    intro other hother
    obtain ⟨later, hlater, rfl⟩ := List.mem_map.1 hother
    exact hafter later hlater

theorem get?_ofCatalog_eq_none_iff :
    (ofCatalog entries).get? model = none ↔ ∀ entry ∈ entries, entry.internalName ≠ model := by
  rw [ofCatalog, Table.get?_ofList, Table.gather_eq_none_iff, List.forall_mem_map]

theorem get?_override_ofCatalog_iff {cost : Float} :
    ((ofCatalog entries).override own).get? model = some cost ↔ Wins own entries model cost := by
  rw [Table.get?_override, Option.or_eq_some_iff, get?_ofCatalog_eq_some_iff]
  constructor
  · rintro (h | ⟨h, entry, hlast, rfl⟩)
    · exact .own h
    · unfold catalogCost
      cases hzero : entry.monoCost == 0 with
      | true => exact .unmeasured h hlast hzero
      | false => exact .measured h hlast hzero
  · intro h
    cases h with
    | own h => exact Or.inl h
    | @unmeasured entry h hlast hzero =>
        exact Or.inr ⟨h, entry, hlast, by rw [catalogCost, if_pos hzero]; rfl⟩
    | @measured entry h hlast hnonzero =>
        exact Or.inr ⟨h, entry, hlast, by rw [catalogCost, if_neg (by simp [hnonzero])]⟩

theorem get?_override_ofCatalog_eq_none_iff :
    ((ofCatalog entries).override own).get? model = none ↔
      own.get? model = none ∧ ∀ entry ∈ entries, entry.internalName ≠ model := by
  rw [Table.get?_override, Option.or_eq_none_iff, get?_ofCatalog_eq_none_iff]

/-! ## What a model is counted with -/

section CostOf

variable {ν : Type} [Amount ν] {costs : CostTable ν} {cost : ν}

theorem costOf_of_usable (h : costs.get? model = some cost) (husable : isUsable cost = true) :
    costOf costs model = cost := by
  simp only [costOf, h, husable, if_true]

theorem costOf_of_unusable (h : costs.get? model = some cost) (hunusable : isUsable cost = false) :
    costOf costs model = 0 := by
  simp only [costOf, h, hunusable, Bool.false_eq_true, if_false]

theorem costOf_of_unlisted (h : costs.get? model = none) : costOf costs model = 0 := by
  simp only [costOf, h]

end CostOf

theorem not_usable_iff {cost : Float} :
    ¬ (cost.isFinite = true ∧ 0 ≤ cost) ↔ isUsable cost = false := by
  rw [← isUsable_iff, Bool.not_eq_true]

theorem countsAs_costOf (own : CostTable Float) (entries : List (CatalogEntry Float))
    (model : String) :
    CountsAs own entries model (costOf ((ofCatalog entries).override own) model) := by
  cases hget : ((ofCatalog entries).override own).get? model with
  | none =>
      obtain ⟨hown, hentries⟩ := get?_override_ofCatalog_eq_none_iff.1 hget
      rw [costOf_of_unlisted hget]
      exact .unlisted hown hentries
  | some cost =>
      have hwins := get?_override_ofCatalog_iff.1 hget
      cases husable : isUsable cost with
      | true =>
          rw [costOf_of_usable hget husable]
          cases hwins with
          | own h => exact .own h (isUsable_iff.1 husable).1 (isUsable_iff.1 husable).2
          | unmeasured h last zero => exact .unmeasured h last zero
          | measured h last nonzero =>
              have hzero := ne_true_of_eq_false nonzero
              obtain ⟨hpos, hfinite⟩ := (isUsable_iff_zero_or_pos.1 husable).resolve_left hzero
              exact .measured h last hpos hfinite
      | false =>
          rw [costOf_of_unusable hget husable]
          cases hwins with
          | own h => exact .unusableOwn h (not_usable_iff.2 husable)
          | unmeasured => exact absurd (isUsable_unmeasuredCost.symm.trans husable) (by decide)
          | measured h last nonzero => exact .unusable h last (isUnusable_iff.1 husable)

theorem costOf_of_countsAs {cost : Float} (h : CountsAs own entries model cost) :
    costOf ((ofCatalog entries).override own) model = cost := by
  cases h with
  | own h finite nonneg =>
      exact costOf_of_usable (get?_override_ofCatalog_iff.2 (.own h))
        (isUsable_iff.2 ⟨finite, nonneg⟩)
  | unusableOwn h unusable =>
      exact costOf_of_unusable (get?_override_ofCatalog_iff.2 (.own h)) (not_usable_iff.1 unusable)
  | unmeasured h last zero =>
      exact costOf_of_usable (get?_override_ofCatalog_iff.2 (.unmeasured h last zero))
        isUsable_unmeasuredCost
  | measured h last pos finite =>
      have hwins := get?_override_ofCatalog_iff.2 (.measured h last (beq_zero_of_pos pos))
      exact costOf_of_usable hwins (isUsable_iff_zero_or_pos.2 (Or.inr ⟨pos, finite⟩))
  | @unusable entry h last unusable =>
      have hunusable := isUnusable_iff.2 unusable
      -- A zero can be counted, so this entry gives the cost itself.
      have hnonzero : (entry.monoCost == 0) = false := by
        rw [← Bool.not_eq_true]
        intro hzero
        rw [isUsable_iff_zero_or_pos.2 (Or.inl hzero)] at hunusable
        cases hunusable
      exact costOf_of_unusable (get?_override_ofCatalog_iff.2 (.measured h last hnonzero))
        hunusable
  | unlisted h absent =>
      exact costOf_of_unlisted (get?_override_ofCatalog_eq_none_iff.2 ⟨h, absent⟩)

end CostTable

/-! ## Warnings of costs -/

/-- The model and the cost that a warning tells of. -/
def Warning.invalidCost? {ν : Type} : Warning ν → Option (String × ν)
  | .invalidCost model cost => some (model, cost)
  | _ => none

/-- One warning for each model of which the cost that wins cannot be counted. -/
structure ReportsUnusable (own : CostTable Float) (entries : List (CatalogEntry Float))
    (warnings : List (Warning Float)) : Prop where
  mem_iff : ∀ model cost, .invalidCost model cost ∈ warnings ↔
    CostTable.Wins own entries model cost ∧ (cost < 0 ∨ cost.isFinite = false)
  nodup : ((warnings.filterMap Warning.invalidCost?).map (·.1)).Nodup

namespace Rig

theorem filterMap_invalidCost?_warnings {ν : Type} [Amount ν] (r : Rig ν) :
    r.warnings.filterMap Warning.invalidCost? =
      r.costs.toList.filter fun entry => !CostTable.isUsable entry.2 := by
  have hpositions :
      (DspPath.all.flatMap r.positionWarnings).filterMap Warning.invalidCost? = [] := by
    refine List.filterMap_eq_nil_iff.2 fun warning hmem => ?_
    obtain ⟨path, position, keys, rfl, -⟩ := (r.reportsPositions.mem_iff warning).1 hmem
    rfl
  have hsnapshots :
      (r.snapshots.flatMap r.snapshotWarnings).filterMap Warning.invalidCost? = [] := by
    refine List.filterMap_eq_nil_iff.2 fun warning hmem => ?_
    obtain ⟨s, -, hwarning⟩ := List.mem_flatMap.1 hmem
    obtain ⟨path, key, rfl, -⟩ := ((r.reportsSnapshot s).mem_iff warning).1 hwarning
    rfl
  have hcontrollers : r.controllerWarnings.filterMap Warning.invalidCost? = [] := by
    refine List.filterMap_eq_nil_iff.2 fun warning hmem => ?_
    obtain ⟨path, key, rfl, -⟩ := (r.reportsControllers.mem_iff warning).1 hmem
    rfl
  have hcosts : r.costWarnings.filterMap Warning.invalidCost? =
      r.costs.toList.filter fun entry => !CostTable.isUsable entry.2 := by
    rw [costWarnings, List.filterMap_map]
    exact List.filterMap_some
  rw [warnings, List.filterMap_append, List.filterMap_append, List.filterMap_append, hpositions,
    hsnapshots, hcontrollers, hcosts]
  rfl

theorem invalidCost_mem_iff {ν : Type} {warnings : List (Warning ν)} {model : String} {cost : ν} :
    .invalidCost model cost ∈ warnings ↔
      (model, cost) ∈ warnings.filterMap Warning.invalidCost? := by
  rw [List.mem_filterMap]
  constructor
  · intro hmem
    exact ⟨_, hmem, rfl⟩
  · rintro ⟨warning, hmem, hwarning⟩
    cases warning with
    | invalidCost m c =>
        cases hwarning
        exact hmem
    | _ => cases hwarning

theorem reportsUnusable_withCatalog (r : Rig Float) (entries : List (CatalogEntry Float)) :
    ReportsUnusable r.costs entries (r.withCatalog entries).warnings where
  mem_iff model cost := by
    rw [invalidCost_mem_iff, filterMap_invalidCost?_warnings, List.mem_filter,
      Table.mem_toList_iff, Bool.not_eq_true', CostTable.isUnusable_iff]
    exact and_congr_left' CostTable.get?_override_ofCatalog_iff
  nodup := by
    rw [filterMap_invalidCost?_warnings]
    exact (r.withCatalog entries).costs.keys_nodup.sublist (List.filter_sublist.map _)

theorem validate_eq_ok_iff {ν : Type} [Amount ν] {r : Rig ν} {warnings : List (Warning ν)} :
    r.validate = .ok warnings ↔ r.HasPath ∧ warnings = r.warnings := by
  by_cases hpath : r.HasPath
  · simp [validate_of_hasPath hpath, hpath, eq_comm]
  · simp [validate_of_not_hasPath hpath, hpath]

/-! ## The step of a catalog -/

theorem get?_costs_withCatalog_isSome_iff {r : Rig Float} {entries : List (CatalogEntry Float)}
    {model : String} :
    ((r.withCatalog entries).costs.get? model).isSome ↔
      (r.costs.get? model).isSome ∨ ∃ entry ∈ entries, entry.internalName = model := by
  have hnone : (r.withCatalog entries).costs.get? model = none ↔
      r.costs.get? model = none ∧ ∀ entry ∈ entries, entry.internalName ≠ model :=
    CostTable.get?_override_ofCatalog_eq_none_iff
  rw [← not_iff_not]
  simpa using hnone

theorem withCatalog_withCatalog (r : Rig Float) (entries : List (CatalogEntry Float)) :
    (r.withCatalog entries).withCatalog entries = r.withCatalog entries :=
  congrArg r.withCosts (Table.override_override_self (CostTable.ofCatalog entries) r.costs)

theorem withCatalog_stereoCost (r : Rig Float) (entries : List (CatalogEntry Float))
    (stereo : CatalogEntry Float → Float) :
    r.withCatalog (entries.map fun entry => { entry with stereoCost := stereo entry }) =
      r.withCatalog entries := by
  unfold withCatalog CostTable.ofCatalog
  rw [List.map_map]
  rfl

/--
A catalog lists costs for the models that the rig lists none for, and no others.
A cost that is listed and cannot be counted hides all others, is counted as
nothing, and is told of in a warning.
-/
theorem catalog_fills_in (r : Rig Float) (entries : List (CatalogEntry Float)) :
    (∀ model, ((r.withCatalog entries).costs.get? model).isSome ↔
      (r.costs.get? model).isSome ∨ ∃ entry ∈ entries, entry.internalName = model) ∧
    (∀ model cost, CostTable.costOf (r.withCatalog entries).costs model = cost ↔
      CostTable.CountsAs r.costs entries model cost) ∧
    (∀ stereo : CatalogEntry Float → Float,
      r.withCatalog (entries.map fun entry => { entry with stereoCost := stereo entry }) =
        r.withCatalog entries) ∧
    (r.withCatalog entries).withCatalog entries = r.withCatalog entries ∧
    ((∃ warnings, (r.withCatalog entries).validate = .ok warnings) ↔ r.HasPath) ∧
    ∀ warnings, (r.withCatalog entries).validate = .ok warnings →
      ReportsUnusable r.costs entries warnings := by
  refine ⟨fun _ => get?_costs_withCatalog_isSome_iff, fun model cost => ⟨?_, ?_⟩,
    r.withCatalog_stereoCost entries, r.withCatalog_withCatalog entries, ?_, ?_⟩
  · rintro rfl
    exact CostTable.countsAs_costOf r.costs entries model
  · exact CostTable.costOf_of_countsAs
  · simp only [validate_eq_ok_iff, exists_and_left, exists_eq, and_true]
    rfl
  · intro warnings hvalid
    obtain ⟨-, rfl⟩ := validate_eq_ok_iff.1 hvalid
    exact r.reportsUnusable_withCatalog entries

/-- A rig whose own cost of an amp cannot be counted. -/
def ampRig : Rig Float :=
  { (Rig.empty : Rig Float) with
    path0 := some (Table.ofList [("amp", Block.ofModel "HD2_AmpUSDeluxe")])
    costs := Table.ofList [("HD2_AmpUSDeluxe", -5)] }

/-- A catalog that measures the amp, and gives a reverb twice. -/
def ampCatalog : List (CatalogEntry Float) :=
  [⟨"HD2_ReverbPlate", "Plate", "", 8, 16⟩, ⟨"HD2_AmpUSDeluxe", "US Deluxe", "", 12.5, 25⟩,
    ⟨"HD2_ReverbPlate", "Plate", "", 0, 16⟩]

theorem catalog_fills_in_ampCatalog :
    CostTable.costOf (ampRig.withCatalog ampCatalog).costs "HD2_AmpUSDeluxe" = 0 ∧
    CostTable.costOf (ampRig.withCatalog ampCatalog).costs "HD2_ReverbPlate" = 3.0 ∧
    (ampRig.withCatalog ampCatalog).validate = .ok [.invalidCost "HD2_AmpUSDeluxe" (-5)] ∧
    ReportsUnusable ampRig.costs ampCatalog [.invalidCost "HD2_AmpUSDeluxe" (-5)] := by
  obtain ⟨-, hcost, -, -, -, hreport⟩ := catalog_fills_in ampRig ampCatalog
  have hlast : CostTable.LastEntry ampCatalog "HD2_ReverbPlate"
      ⟨"HD2_ReverbPlate", "Plate", "", 0, 16⟩ :=
    ⟨rfl, [_, _], [], rfl, by simp⟩
  have hvalid : (ampRig.withCatalog ampCatalog).validate =
      .ok [.invalidCost "HD2_AmpUSDeluxe" (-5)] := by
    rfl
  refine ⟨(hcost _ _).2 (.unusableOwn rfl (by decide +kernel)), (hcost _ _).2 ?_, hvalid,
    hreport _ hvalid⟩
  exact .unmeasured rfl hlast (by decide +kernel)

end Rig

end SignalChain
