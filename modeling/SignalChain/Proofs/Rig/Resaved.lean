import SignalChain.Proofs.Record.Resaved

/-!
# What is read of a written rig

Of each record in a rig only the parts with doubles and the values that a hint
carries along can change between writing and reading; the rest is read as it was.
-/

namespace SignalChain

open Document Record

/-! ## Instruments -/

instance : Stays InstrumentFamily 0 where
  self family _ := by
    cases family <;> rfl

instance : Stays StringTunings 1 where
  self {level} tunings h := by
    let items := (tunings.toList.map toValue).map (Json.reread (level + 1))
    have hvalue : Json.reread level (toValue tunings) = .list items := by
      show Json.reread level (.list (tunings.toList.map toValue)) = _
      rw [Json.reread, Json.nested, if_pos (by omega), Json.rereadItems_eq_map]
    have hread : items.mapM (ofValue? .json) = some tunings.toList := by
      have hlist : resaved? level tunings.toList = some tunings.toList :=
        Stays.self tunings.toList h
      rw [resaved?_list (by omega)] at hlist
      simp only [items, List.map_map, List.mapM_map]
      exact hlist
    have hparts : partsOf? .json 6 items = some items := by
      simp [partsOf?, items]
    unfold resaved?
    rw [hvalue]
    show (partsOf? .json 6 items).bind _ = _
    rw [hparts, Option.bind_some]
    show (items.mapM (ofValue? .json)).bind _ = _
    rw [hread, Option.bind_some, StringTunings.ofList?_toList]

namespace Instrument

theorem writesNames (i : Instrument) : WritesNames fieldNames (toValue i).fields :=
  .append (.append (.append .field .field) .field) .field

instance : Stays Instrument 2 where
  self {level} i h := by
    obtain ⟨given, hgiven, hgives⟩ := fieldsOf?_reread rfl i.writesNames (by decide)
      (by omega : level < 127)
    have hmodel : defaulted .json given "model_id" default.modelId = some i.modelId :=
      defaulted_stays hgives (by simp [toValue, List.lookup_append]) (by omega)
    have hfamily : defaulted .json given "family" default.family = some i.family :=
      defaulted_stays hgives (by simp [toValue, List.lookup_append]) (by omega)
    have hcustom : defaulted .json given "custom_tuning" default.customTuning =
        some i.customTuning :=
      defaulted_stays hgives (by simp [toValue, List.lookup_append]) (by omega)
    have htunings : defaulted .json given "string_tunings" default.stringTunings =
        some i.stringTunings :=
      defaulted_stays hgives (by simp [toValue, List.lookup_append]) (by omega)
    simp [resaved?, ofValue?, hgiven, hmodel, hfamily, hcustom, htunings]

end Instrument

namespace InstrumentOverride

theorem writesNames (o : InstrumentOverride) : WritesNames fieldNames (toValue o).fields :=
  .append (.append .fieldIfSome .fieldIfSome) .fieldIfSome

instance : Stays InstrumentOverride 2 where
  self {level} o h := by
    obtain ⟨given, hgiven, hgives⟩ := fieldsOf?_reread rfl o.writesNames (by decide)
      (by omega : level < 127)
    have hmodel : optional .json given "model_id" = some o.modelId :=
      optional_stays hgives (by simp [toValue, List.lookup_append]) rfl (by omega)
    have hcustom : optional .json given "custom_tuning" = some o.customTuning :=
      optional_stays hgives (by simp [toValue, List.lookup_append]) rfl (by omega)
    have htunings : optional .json given "string_tunings" = some o.stringTunings :=
      optional_stays hgives (by simp [toValue, List.lookup_append]) rfl (by omega)
    simp [resaved?, ofValue?, hgiven, hmodel, hcustom, htunings]

end InstrumentOverride

/-! ## Blocks -/

namespace PerPath

variable {α : Type} [Record α] {level : Nat}

omit [Record α] in
theorem writesNames [Written α] (m : PerPath α) : WritesNames fieldNames (toValue m).fields :=
  .append .fieldUnless .fieldUnless

theorem resaved?_eq (h : level < 126) (m : PerPath α) :
    resaved? level m =
      (resaved? (level + 1) m.path0).bind (fun path0 =>
        (resaved? (level + 1) m.path1).bind (fun path1 => some ⟨path0, path1⟩)) := by
  obtain ⟨given, hgiven, hgives⟩ := fieldsOf?_reread rfl m.writesNames (by decide)
    (by omega : level < 127)
  have hempty : ∀ t : Table String α, t.isEmpty = true →
      resaved? (level + 1) t = some Table.empty := by
    intro t ht
    rw [Table.eq_empty_of_isEmpty ht, resaved?_empty (by omega)]
  have hpath0 : defaulted .json given "path0" Table.empty = resaved? (level + 1) m.path0 :=
    defaulted_reread_unless hgives (by simp [toValue, List.lookup_append]) (hempty _)
  have hpath1 : defaulted .json given "path1" Table.empty = resaved? (level + 1) m.path1 :=
    defaulted_reread_unless hgives (by simp [toValue, List.lookup_append]) (hempty _)
  show ofValue? .json (Json.reread level (toValue m)) = _
  simp only [ofValue?, hgiven, hpath0, hpath1, Option.bind_eq_bind, Option.bind_some]

theorem resaved?_eq_self (h : level < 126) {m : PerPath α}
    (hself : ∀ path key a, m.get? path key = some a → resaved? (level + 2) a = some a) :
    resaved? level m = some m := by
  have hpath0 : resaved? (level + 1) m.path0 = some m.path0 :=
    resaved?_table_self (by omega) (hself .path0)
  have hpath1 : resaved? (level + 1) m.path1 = some m.path1 :=
    resaved?_table_self (by omega) (hself .path1)
  rw [resaved?_eq h, hpath0, Option.bind_some, hpath1, Option.bind_some]

instance {depth : Nat} [Stays α depth] : Stays (PerPath α) (depth + 2) where
  self m h := resaved?_eq_self (by omega) fun _ _ a _ => Stays.self a (by omega)

end PerPath

namespace ParamValue

theorem resaved?_number (level : Nat) (x : Float) :
    resaved? level (ParamValue.number x) = (rereadFloat? x).map .number := by
  show ofValue? .json (Json.reread level (.float x)) = _
  obtain ⟨-, hvalue, hread⟩ | ⟨-, hvalue, hread⟩ | ⟨y, -, hvalue, hread⟩ :=
    reread_float_cases level x <;> rw [hvalue, hread] <;> rfl

theorem resaved?_eq_self {p : ParamValue} (level : Nat)
    (h : ∀ x, p = .number x → rereadFloat? x = some x) : resaved? level p = some p := by
  cases p with
  | number x => rw [resaved?_number, h x rfl, Option.map_some]
  | flag b => rfl
  | text s => rfl

end ParamValue

namespace Block

variable {level : Nat}

theorem writesNames (b : Block) : WritesNames fieldNames (toValue b).fields :=
  .append (.append (.append (.append (.append .field .field) .field) .field) .field) .field

theorem resaved?_eq (h : level < 126) (b : Block) :
    resaved? level b =
      (resaved? (level + 1) b.params).bind (fun params => some { b with params := params }) := by
  obtain ⟨given, hgiven, hgives⟩ := fieldsOf?_reread rfl b.writesNames (by decide)
    (by omega : level < 127)
  have hmodel : required .json given "model" = some b.model :=
    required_stays hgives (by simp [toValue, List.lookup_append]) (by omega)
  have htype : defaulted .json given "type" 0 = some b.typeCode :=
    defaulted_stays hgives (by simp [toValue, List.lookup_append]) (by omega)
  have henabled : defaulted .json given "enabled" true = some b.enabled :=
    defaulted_stays hgives (by simp [toValue, List.lookup_append]) (by omega)
  have hposition : defaulted .json given "position" 0 = some b.position :=
    defaulted_stays hgives (by simp [toValue, List.lookup_append]) (by omega)
  have hstereo : defaulted .json given "stereo" false = some b.stereo :=
    defaulted_stays hgives (by simp [toValue, List.lookup_append]) (by omega)
  have hparams : defaulted .json given "params" Table.empty = resaved? (level + 1) b.params :=
    defaulted_reread hgives (by simp [toValue, List.lookup_append])
  show ofValue? .json (Json.reread level (toValue b)) = _
  simp only [ofValue?, hgiven, hmodel, htype, henabled, hposition, hstereo, hparams,
    Option.bind_eq_bind, Option.bind_some]

theorem resaved?_eq_self (h : level < 126) {b : Block}
    (hself : ∀ name x, b.params.get? name = some (.number x) → rereadFloat? x = some x) :
    resaved? level b = some b := by
  have hparams : resaved? (level + 1) b.params = some b.params := by
    refine resaved?_table_self (by omega) ?_
    intro name p hget
    refine ParamValue.resaved?_eq_self _ ?_
    intro x hnumber
    exact hself name x (hnumber ▸ hget)
  rw [resaved?_eq h, hparams, Option.bind_some]

end Block

/-! ## Controllers -/

theorem ControllerKind.resaved?_eq {level : Nat} (h : level ≤ 127) (kind : ControllerKind) :
    resaved? level kind = some (ofCode kind.code) := by
  have hcode : resaved? level kind.code = some kind.code := Stays.self kind.code h
  show (resaved? level kind.code).map ofCode = _
  rw [hcode, Option.map_some]

namespace Assignment

variable {level : Nat}

theorem writesNames (a : Assignment) : WritesNames fieldNames (toValue a).fields :=
  .append (.append .field .fieldIfSome) .fieldIfSome

theorem resaved?_eq (h : level < 126) (a : Assignment) :
    resaved? level a =
      (resavedEnd? a.min).bind (fun min =>
        (resavedEnd? a.max).bind (fun max => some ⟨.ofCode a.kind.code, min, max⟩)) := by
  obtain ⟨given, hgiven, hgives⟩ := fieldsOf?_reread rfl a.writesNames (by decide)
    (by omega : level < 127)
  have hkind : required .json given "controller" = some (ControllerKind.ofCode a.kind.code) := by
    rw [required_reread hgives (a := a.kind) (by simp [toValue, List.lookup_append]),
      ControllerKind.resaved?_eq (by omega)]
  have hmin : optional .json given "min" = resavedEnd? a.min :=
    optional_end hgives (by simp [toValue, List.lookup_append])
  have hmax : optional .json given "max" = resavedEnd? a.max :=
    optional_end hgives (by simp [toValue, List.lookup_append])
  show ofValue? .json (Json.reread level (toValue a)) = _
  simp only [ofValue?, hgiven, hkind, hmin, hmax, Option.bind_eq_bind, Option.bind_some]

end Assignment

namespace ControllerTable

variable {level : Nat}

theorem writesNames (t : ControllerTable) : WritesNames fieldNames (toValue t).fields :=
  .append .field .fieldUnless

theorem resaved?_eq (h : level < 126) (t : ControllerTable) :
    resaved? level t =
      (resaved? (level + 1) t.blocks).bind (fun blocks =>
        (resaved? (level + 1) t.instrument).bind (fun instrument =>
          some ⟨blocks, instrument⟩)) := by
  obtain ⟨given, hgiven, hgives⟩ := fieldsOf?_reread rfl t.writesNames (by decide)
    (by omega : level < 127)
  have hempty : t.instrument.isEmpty = true →
      resaved? (level + 1) t.instrument = some Table.empty := by
    intro hinstrument
    rw [Table.eq_empty_of_isEmpty hinstrument, resaved?_empty (by omega)]
  have hblocks : defaulted .json given "blocks" PerPath.empty =
      resaved? (level + 1) t.blocks :=
    defaulted_reread hgives (by simp [toValue, List.lookup_append])
  have hinstrument : defaulted .json given "instrument" Table.empty =
      resaved? (level + 1) t.instrument :=
    defaulted_reread_unless hgives (by simp [toValue, List.lookup_append]) hempty
  show ofValue? .json (Json.reread level (toValue t)) = _
  simp only [ofValue?, hgiven, hblocks, hinstrument, Option.bind_eq_bind, Option.bind_some]

end ControllerTable

/-! ## Snapshots and rigs -/

namespace Hint

variable {level : Nat}

theorem writesNames (hint : Hint) : WritesNames fieldNames (toValue hint).fields :=
  .append (.append (.append .field .fieldUnless) .fieldIfSome) .fieldIfSome

theorem resaved?_eq (h : level < 126) (hint : Hint) :
    resaved? level hint =
      (resaved? (level + 1) hint.params).bind (fun params =>
        some { hint with params := params }) := by
  obtain ⟨given, hgiven, hgives⟩ := fieldsOf?_reread rfl hint.writesNames (by decide)
    (by omega : level < 127)
  have hempty : hint.params.isEmpty = true →
      resaved? (level + 1) hint.params = some Table.empty := by
    intro hparams
    rw [Table.eq_empty_of_isEmpty hparams, resaved?_empty (by omega)]
  have hactive : defaulted .json given "active_blocks" [] = some hint.activeBlocks :=
    defaulted_stays hgives (by simp [toValue, List.lookup_append]) (by omega)
  have hparams : defaulted .json given "params" Table.empty =
      resaved? (level + 1) hint.params :=
    defaulted_reread_unless hgives (by simp [toValue, List.lookup_append]) hempty
  have hguitar : optional .json given "guitar_model" = some hint.guitarModel :=
    optional_stays hgives (by simp [toValue, List.lookup_append]) rfl (by omega)
  have htuning : optional .json given "tuning" = some hint.tuning :=
    optional_stays hgives (by simp [toValue, List.lookup_append]) rfl (by omega)
  show ofValue? .json (Json.reread level (toValue hint)) = _
  simp only [ofValue?, hgiven, hactive, hparams, hguitar, htuning, Option.bind_eq_bind,
    Option.bind_some]

end Hint

namespace Snapshot

variable {level : Nat}

theorem writesNames (s : Snapshot) : WritesNames fieldNames (toValue s).fields :=
  .append (.append (.append (.append (.append .field .fieldIfSome) .fieldIfSome) .fieldIfSome)
    .fieldIfSome) .fieldIfSome

theorem resaved?_eq (h : level < 120) (s : Snapshot) :
    resaved? level s =
      (resavedIfSome? (level + 1) s.params).bind (fun params =>
        (resavedIfSome? (level + 1) s.hint).bind (fun hint =>
          some { s with params := params, hint := hint })) := by
  obtain ⟨given, hgiven, hgives⟩ := fieldsOf?_reread rfl s.writesNames (by decide)
    (by omega : level < 127)
  have hname : required .json given "name" = some s.name :=
    required_stays hgives (by simp [toValue, List.lookup_append]) (by omega)
  have hblocks : optional .json given "blocks" = some s.blocks :=
    optional_stays hgives (by simp [toValue, List.lookup_append]) rfl (by omega)
  have hparams : optional .json given "params" = resavedIfSome? (level + 1) s.params :=
    optional_reread hgives (by simp [toValue, List.lookup_append])
      fun _ => reread_object_ne_null _ _
  have hcontrollers : optional .json given "instrument_controllers" =
      some s.instrumentControllers :=
    optional_stays hgives (by simp [toValue, List.lookup_append]) rfl (by omega)
  have hinstrument : optional .json given "instrument" = some s.instrument :=
    optional_stays hgives (by simp [toValue, List.lookup_append]) rfl (by omega)
  have hhint : optional .json given "hint" = resavedIfSome? (level + 1) s.hint :=
    optional_reread hgives (by simp [toValue, List.lookup_append])
      fun _ => reread_object_ne_null _ _
  show ofValue? .json (Json.reread level (toValue s)) = _
  simp only [ofValue?, hgiven, hname, hblocks, hparams, hcontrollers, hinstrument, hhint,
    Option.bind_eq_bind, Option.bind_some]

end Snapshot

namespace Rig

theorem writesNames (r : Rig Float) : WritesNames fieldNames (toValue r).fields :=
  .append (.append (.append (.append (.append (.append .fieldIfSome .fieldIfSome) .fieldIfSome)
    .field) .fieldUnless) .fieldIfSome) .field

theorem resaved?_eq (r : Rig Float) :
    resaved? 0 r =
      (resavedIfSome? 1 r.path0).bind (fun path0 =>
        (resavedIfSome? 1 r.path1).bind (fun path1 =>
          (resaved? 1 r.controllers).bind (fun controllers =>
            (resaved? 1 r.snapshots).bind (fun snapshots =>
              (resaved? 1 r.costs).bind (fun costs =>
                some { r with
                  path0 := path0, path1 := path1, controllers := controllers,
                  snapshots := snapshots, costs := costs }))))) := by
  obtain ⟨given, hgiven, hgives⟩ := fieldsOf?_reread rfl r.writesNames (by decide)
    (by omega : 0 < 127)
  have hempty : r.snapshots.isEmpty = true → resaved? 1 r.snapshots = some [] := by
    intro hsnapshots
    rw [List.isEmpty_iff.1 hsnapshots]
    rfl
  have hname : optional .json given "name" = some r.name :=
    optional_stays hgives (by simp [toValue, List.lookup_append]) rfl (by omega)
  have hpath0 : optional .json given "path0" = resavedIfSome? 1 r.path0 :=
    optional_reread hgives (by simp [toValue, List.lookup_append])
      fun _ => reread_object_ne_null _ _
  have hpath1 : optional .json given "path1" = resavedIfSome? 1 r.path1 :=
    optional_reread hgives (by simp [toValue, List.lookup_append])
      fun _ => reread_object_ne_null _ _
  have hcontrollers : defaulted .json given "controllers" ControllerTable.empty =
      resaved? 1 r.controllers :=
    defaulted_reread hgives (by simp [toValue, List.lookup_append])
  have hsnapshots : defaulted .json given "snapshots" [] = resaved? 1 r.snapshots :=
    defaulted_reread_unless hgives (by simp [toValue, List.lookup_append]) hempty
  have hinstrument : optional .json given "instrument" = some r.instrument :=
    optional_stays hgives (by simp [toValue, List.lookup_append]) rfl (by omega)
  have hcosts : defaulted .json given "costs" Table.empty = resaved? 1 r.costs :=
    defaulted_reread hgives (by simp [toValue, List.lookup_append])
  show ofValue? .json (Json.reread 0 (toValue r)) = _
  simp only [ofValue?, hgiven, hname, hpath0, hpath1, hcontrollers, hsnapshots, hinstrument,
    hcosts, Option.bind_eq_bind, Option.bind_some]

end Rig

end SignalChain
