import SignalChain.Proofs.Record.Field

/-!
# The laws for the records of a rig

Each record is taken apart into its fields once: they are written as values of
the data model, each is read back, and JSON can carry what it read there.
-/

namespace SignalChain

open Document Record

theorem Table.eq_empty_of_isEmpty {α : Type} {t : Table String α} (h : t.isEmpty = true) :
    t = Table.empty :=
  ext_entries (List.isEmpty_iff.1 h)

open Table

/-! ## Blocks -/

namespace PerPath

variable {α : Type} [Record α] [Portable α] [LawfulRecord α]

theorem writesFields {format : Format} {m : PerPath α} (h : IsPortable format m) :
    WritesFields format fieldNames (toValue m).fields :=
  .append (.fieldUnless h.1) (.fieldUnless h.2)

instance : LawfulRecord (PerPath α) where
  expresses_toValue h := (writesFields h).expresses_object (by decide)
  ofValue?_of_same {format m w} h hsame := by
    obtain ⟨given, hgiven, hgives⟩ := fieldsOf?_of_same (writesFields h) (by decide) hsame
    have hpath0 : defaulted format given "path0" Table.empty = some m.path0 :=
      defaulted_of_gives_unless hgives (by simp [toValue, List.lookup_append])
        eq_empty_of_isEmpty h.1
    have hpath1 : defaulted format given "path1" Table.empty = some m.path1 :=
      defaulted_of_gives_unless hgives (by simp [toValue, List.lookup_append])
        eq_empty_of_isEmpty h.2
    simp [ofValue?, hgiven, hpath0, hpath1]
  isPortable_of_ofValue? {w m} hall h := by
    simp only [ofValue?, Option.bind_eq_bind, Option.bind_eq_some_iff] at h
    obtain ⟨given, hgiven, path0, hpath0, path1, hpath1, heq⟩ := h
    cases heq
    have hrange := givesInRange hall hgiven
    exact ⟨isPortable_of_defaulted hrange hpath0 isPortable_empty,
      isPortable_of_defaulted hrange hpath1 isPortable_empty⟩

end PerPath

instance : LawfulRecord ParamValue where
  expresses_toValue {format p} h := by
    cases p with
    | number x => exact .scalar h rfl
    | _ => exact .scalar trivial rfl
  ofValue?_of_same {format p w} _ hsame := by
    cases p <;> cases hsame <;> rfl
  isPortable_of_ofValue? {w p} hall h := by
    cases w <;> simp only [ofValue?] at h <;> cases h
    · trivial
    · next n =>
        obtain ⟨hlow, hhigh⟩ := lt_of_isInteger64 hall.self
        exact Decimal.isFinite_ofInt hlow hhigh
    · exact hall.self
    · trivial

namespace Block

theorem writesFields {format : Format} {b : Block} (h : IsPortable format b) :
    WritesFields format fieldNames (toValue b).fields :=
  .append (.append (.append (.append (.append (.field (isPortable _ _)) (.field (isPortable _ _)))
    (.field (isPortable _ _))) (.field (isPortable _ _))) (.field (isPortable _ _))) (.field h)

instance : LawfulRecord Block where
  expresses_toValue h := (writesFields h).expresses_object (by decide)
  ofValue?_of_same {format b w} h hsame := by
    obtain ⟨given, hgiven, hgives⟩ := fieldsOf?_of_same (writesFields h) (by decide) hsame
    have hmodel : required format given "model" = some b.model :=
      required_of_gives hgives (by simp [toValue, List.lookup_append]) (isPortable _ _)
    have htype : defaulted format given "type" 0 = some b.typeCode :=
      defaulted_of_gives hgives (by simp [toValue, List.lookup_append]) (isPortable _ _)
    have henabled : defaulted format given "enabled" true = some b.enabled :=
      defaulted_of_gives hgives (by simp [toValue, List.lookup_append]) (isPortable _ _)
    have hposition : defaulted format given "position" 0 = some b.position :=
      defaulted_of_gives hgives (by simp [toValue, List.lookup_append]) (isPortable _ _)
    have hstereo : defaulted format given "stereo" false = some b.stereo :=
      defaulted_of_gives hgives (by simp [toValue, List.lookup_append]) (isPortable _ _)
    have hparams : defaulted format given "params" Table.empty = some b.params :=
      defaulted_of_gives hgives (by simp [toValue, List.lookup_append]) h
    simp [ofValue?, hgiven, hmodel, htype, henabled, hposition, hstereo, hparams]
  isPortable_of_ofValue? {w b} hall h := by
    simp only [ofValue?, Option.bind_eq_bind, Option.bind_eq_some_iff] at h
    obtain ⟨given, hgiven, model, -, typeCode, -, enabled, -, position, -, stereo, -,
      params, hparams, heq⟩ := h
    cases heq
    show IsPortable .json params
    exact isPortable_of_defaulted (givesInRange hall hgiven) hparams isPortable_empty

end Block

/-! ## Controllers -/

instance : LawfulRecord ControllerKind where
  expresses_toValue {format kind} _ := by
    show format.Expresses (toValue kind.code)
    exact expresses_toValue trivial
  ofValue?_of_same {format kind w} h hsame := by
    obtain ⟨code, rfl⟩ := h
    have hcode : ofValue? format w = some (ControllerKind.ofCode code).code :=
      ofValue?_of_same trivial hsame
    show (ofValue? format w).map ControllerKind.ofCode = _
    rw [hcode, Option.map_some, ControllerKind.code_ofCode]
  isPortable_of_ofValue? {w kind} _ h := by
    obtain ⟨code, -, rfl⟩ := Option.map_eq_some_iff.1 h
    exact ⟨code, rfl⟩

namespace Assignment

theorem writesFields {format : Format} {a : Assignment} (h : IsPortable format a) :
    WritesFields format fieldNames (toValue a).fields :=
  .append (.append (.field h.1) (.fieldIfSome h.2.1)) (.fieldIfSome h.2.2)

instance : LawfulRecord Assignment where
  expresses_toValue h := (writesFields h).expresses_object (by decide)
  ofValue?_of_same {format a w} h hsame := by
    obtain ⟨given, hgiven, hgives⟩ := fieldsOf?_of_same (writesFields h) (by decide) hsame
    have hkind : required format given "controller" = some a.kind :=
      required_of_gives hgives (by simp [toValue, List.lookup_append]) h.1
    have hmin : optional format given "min" = some a.min :=
      optional_of_gives hgives (by simp [toValue, List.lookup_append]) nofun h.2.1
    have hmax : optional format given "max" = some a.max :=
      optional_of_gives hgives (by simp [toValue, List.lookup_append]) nofun h.2.2
    simp [ofValue?, hgiven, hkind, hmin, hmax]
  isPortable_of_ofValue? {w a} hall h := by
    simp only [ofValue?, Option.bind_eq_bind, Option.bind_eq_some_iff] at h
    obtain ⟨given, hgiven, kind, hkind, min, hmin, max, hmax, heq⟩ := h
    cases heq
    have hrange := givesInRange hall hgiven
    exact ⟨isPortable_of_required hrange hkind, isPortable_of_optional hrange hmin,
      isPortable_of_optional hrange hmax⟩

end Assignment

namespace ControllerTable

theorem writesFields {format : Format} {t : ControllerTable} (h : IsPortable format t) :
    WritesFields format fieldNames (toValue t).fields :=
  .append (.field h.1) (.fieldUnless h.2)

instance : LawfulRecord ControllerTable where
  expresses_toValue h := (writesFields h).expresses_object (by decide)
  ofValue?_of_same {format t w} h hsame := by
    obtain ⟨given, hgiven, hgives⟩ := fieldsOf?_of_same (writesFields h) (by decide) hsame
    have hblocks : defaulted format given "blocks" PerPath.empty = some t.blocks :=
      defaulted_of_gives hgives (by simp [toValue, List.lookup_append]) h.1
    have hinstrument : defaulted format given "instrument" Table.empty = some t.instrument :=
      defaulted_of_gives_unless hgives (by simp [toValue, List.lookup_append])
        eq_empty_of_isEmpty h.2
    simp [ofValue?, hgiven, hblocks, hinstrument]
  isPortable_of_ofValue? {w t} hall h := by
    simp only [ofValue?, Option.bind_eq_bind, Option.bind_eq_some_iff] at h
    obtain ⟨given, hgiven, blocks, hblocks, instrument, hinstrument, heq⟩ := h
    cases heq
    have hrange := givesInRange hall hgiven
    exact ⟨isPortable_of_defaulted hrange hblocks ⟨isPortable_empty, isPortable_empty⟩,
      isPortable_of_defaulted hrange hinstrument isPortable_empty⟩

end ControllerTable

/-! ## Instruments -/

instance : LawfulRecord InstrumentFamily where
  expresses_toValue _ := .scalar trivial rfl
  ofValue?_of_same {format family w} _ hsame := by
    cases hsame
    cases family <;> rfl
  isPortable_of_ofValue? _ _ := trivial

theorem partsOf?_of_length {α : Type} {format : Format} {items : List α} :
    partsOf? format items.length items = some items := by
  cases format <;> simp [partsOf?]

theorem StringTunings.ofList?_toList (tunings : StringTunings) :
    StringTunings.ofList? tunings.toList = some tunings := by
  have hlength : tunings.toList.length = 6 := by simp
  rw [StringTunings.ofList?, dif_pos hlength]
  simp [Vector.toList]

instance : LawfulRecord StringTunings where
  expresses_toValue {format tunings} _ := by
    show format.Expresses (toValue tunings.toList)
    exact expresses_toValue (isPortable _ _)
  ofValue?_of_same {format tunings w} _ hsame := by
    obtain ⟨others, rfl, heach⟩ := Value.Same.of_list hsame
    have hlength : others.length = 6 := by
      simpa using heach.length_eq.symm
    have hread : others.mapM (ofValue? format) = some tunings.toList :=
      Value.mapM_of_same (fun n _ w hw => ofValue?_of_same trivial hw) heach
    have hparts : partsOf? format 6 others = some others :=
      hlength ▸ partsOf?_of_length
    show (partsOf? format 6 others).bind _ = _
    rw [hparts, Option.bind_some]
    show (others.mapM (ofValue? format)).bind _ = _
    rw [hread, Option.bind_some, StringTunings.ofList?_toList]
  isPortable_of_ofValue? _ _ := trivial

namespace Instrument

theorem writesFields (format : Format) (i : Instrument) :
    WritesFields format fieldNames (toValue i).fields :=
  .append (.append (.append (.field (isPortable _ _)) (.field (isPortable _ _))) (.field (isPortable _ _)))
    (.field (isPortable _ _))

instance : LawfulRecord Instrument where
  expresses_toValue {format a} _ := (writesFields format a).expresses_object (by decide)
  ofValue?_of_same {format i w} _ hsame := by
    obtain ⟨given, hgiven, hgives⟩ := fieldsOf?_of_same (writesFields format i) (by decide) hsame
    have hmodel : defaulted format given "model_id" default.modelId = some i.modelId :=
      defaulted_of_gives hgives (by simp [toValue, List.lookup_append]) (isPortable _ _)
    have hfamily : defaulted format given "family" default.family = some i.family :=
      defaulted_of_gives hgives (by simp [toValue, List.lookup_append]) (isPortable _ _)
    have hcustom : defaulted format given "custom_tuning" default.customTuning =
        some i.customTuning :=
      defaulted_of_gives hgives (by simp [toValue, List.lookup_append]) (isPortable _ _)
    have htunings : defaulted format given "string_tunings" default.stringTunings =
        some i.stringTunings :=
      defaulted_of_gives hgives (by simp [toValue, List.lookup_append]) (isPortable _ _)
    simp [ofValue?, hgiven, hmodel, hfamily, hcustom, htunings]
  isPortable_of_ofValue? _ _ := trivial

end Instrument

namespace InstrumentOverride

theorem writesFields (format : Format) (o : InstrumentOverride) :
    WritesFields format fieldNames (toValue o).fields :=
  .append (.append (.fieldIfSome (isPortable _ _)) (.fieldIfSome (isPortable _ _)))
    (.fieldIfSome (isPortable _ _))

instance : LawfulRecord InstrumentOverride where
  expresses_toValue {format a} _ := (writesFields format a).expresses_object (by decide)
  ofValue?_of_same {format o w} _ hsame := by
    obtain ⟨given, hgiven, hgives⟩ := fieldsOf?_of_same (writesFields format o) (by decide) hsame
    have hmodel : optional format given "model_id" = some o.modelId :=
      optional_of_gives hgives (by simp [toValue, List.lookup_append]) nofun
        (isPortable _ _)
    have hcustom : optional format given "custom_tuning" = some o.customTuning :=
      optional_of_gives hgives (by simp [toValue, List.lookup_append]) nofun
        (isPortable _ _)
    have htunings : optional format given "string_tunings" = some o.stringTunings :=
      optional_of_gives hgives (by simp [toValue, List.lookup_append]) nofun
        (isPortable _ _)
    simp [ofValue?, hgiven, hmodel, hcustom, htunings]
  isPortable_of_ofValue? _ _ := trivial

end InstrumentOverride

/-! ## Snapshots and rigs -/

namespace Hint

theorem writesFields {format : Format} {h : Hint} (hparams : IsPortable format h.params) :
    WritesFields format fieldNames (toValue h).fields :=
  .append (.append (.append (.field (isPortable _ _)) (.fieldUnless hparams))
    (.fieldIfSome (isPortable _ _))) (.fieldIfSome (isPortable _ _))

instance : LawfulRecord Hint where
  expresses_toValue h := (writesFields h).expresses_object (by decide)
  ofValue?_of_same {format hint w} h hsame := by
    obtain ⟨given, hgiven, hgives⟩ := fieldsOf?_of_same (writesFields h) (by decide) hsame
    have hactive : defaulted format given "active_blocks" [] = some hint.activeBlocks :=
      defaulted_of_gives hgives (by simp [toValue, List.lookup_append]) (isPortable _ _)
    have hparams : defaulted format given "params" Table.empty = some hint.params :=
      defaulted_of_gives_unless hgives (by simp [toValue, List.lookup_append])
        eq_empty_of_isEmpty h
    have hguitar : optional format given "guitar_model" = some hint.guitarModel :=
      optional_of_gives hgives (by simp [toValue, List.lookup_append]) nofun
        (isPortable _ _)
    have htuning : optional format given "tuning" = some hint.tuning :=
      optional_of_gives hgives (by simp [toValue, List.lookup_append]) nofun
        (isPortable _ _)
    simp [ofValue?, hgiven, hactive, hparams, hguitar, htuning]
  isPortable_of_ofValue? {w hint} hall h := by
    simp only [ofValue?, Option.bind_eq_bind, Option.bind_eq_some_iff] at h
    obtain ⟨given, hgiven, activeBlocks, -, params, hparams, guitarModel, -, tuning, -,
      heq⟩ := h
    cases heq
    show IsPortable .json params
    exact isPortable_of_defaulted (givesInRange hall hgiven) hparams isPortable_empty

end Hint

namespace Snapshot

theorem writesFields {format : Format} {s : Snapshot} (h : IsPortable format s) :
    WritesFields format fieldNames (toValue s).fields :=
  .append (.append (.append (.append (.append (.field (isPortable _ _))
    (.fieldIfSome (isPortable _ _)))
    (.fieldIfSome h.1)) (.fieldIfSome (isPortable _ _)))
    (.fieldIfSome (isPortable _ _))) (.fieldIfSome h.2)

instance : LawfulRecord Snapshot where
  expresses_toValue h := (writesFields h).expresses_object (by decide)
  ofValue?_of_same {format s w} h hsame := by
    obtain ⟨given, hgiven, hgives⟩ := fieldsOf?_of_same (writesFields h) (by decide) hsame
    have hname : required format given "name" = some s.name :=
      required_of_gives hgives (by simp [toValue, List.lookup_append]) (isPortable _ _)
    have hblocks : optional format given "blocks" = some s.blocks :=
      optional_of_gives hgives (by simp [toValue, List.lookup_append]) nofun
        (isPortable _ _)
    have hparams : optional format given "params" = some s.params :=
      optional_of_gives hgives (by simp [toValue, List.lookup_append]) nofun h.1
    have hcontrollers : optional format given "instrument_controllers" =
        some s.instrumentControllers :=
      optional_of_gives hgives (by simp [toValue, List.lookup_append]) nofun
        (isPortable _ _)
    have hinstrument : optional format given "instrument" = some s.instrument :=
      optional_of_gives hgives (by simp [toValue, List.lookup_append]) nofun
        (isPortable _ _)
    have hhint : optional format given "hint" = some s.hint :=
      optional_of_gives hgives (by simp [toValue, List.lookup_append]) nofun h.2
    simp [ofValue?, hgiven, hname, hblocks, hparams, hcontrollers, hinstrument, hhint]
  isPortable_of_ofValue? {w s} hall h := by
    simp only [ofValue?, Option.bind_eq_bind, Option.bind_eq_some_iff] at h
    obtain ⟨given, hgiven, name, -, blocks, -, params, hparams, controllers, -,
      instrument, -, hint, hhint, heq⟩ := h
    cases heq
    have hrange := givesInRange hall hgiven
    exact ⟨isPortable_of_optional hrange hparams, isPortable_of_optional hrange hhint⟩

end Snapshot

namespace Rig

theorem writesFields {format : Format} {r : Rig Float} (h : IsPortable format r) :
    WritesFields format fieldNames (toValue r).fields :=
  .append (.append (.append (.append (.append (.append (.fieldIfSome (isPortable _ _))
    (.fieldIfSome h.1)) (.fieldIfSome h.2.1)) (.field h.2.2.1)) (.fieldUnless h.2.2.2.1))
    (.fieldIfSome (isPortable _ _))) (.field h.2.2.2.2)

instance : LawfulRecord (Rig Float) where
  expresses_toValue h := (writesFields h).expresses_object (by decide)
  ofValue?_of_same {format r w} h hsame := by
    obtain ⟨given, hgiven, hgives⟩ := fieldsOf?_of_same (writesFields h) (by decide) hsame
    have hname : optional format given "name" = some r.name :=
      optional_of_gives hgives (by simp [toValue, List.lookup_append]) nofun
        (isPortable _ _)
    have hpath0 : optional format given "path0" = some r.path0 :=
      optional_of_gives hgives (by simp [toValue, List.lookup_append]) nofun h.1
    have hpath1 : optional format given "path1" = some r.path1 :=
      optional_of_gives hgives (by simp [toValue, List.lookup_append]) nofun h.2.1
    have hcontrollers : defaulted format given "controllers" ControllerTable.empty =
        some r.controllers :=
      defaulted_of_gives hgives (by simp [toValue, List.lookup_append]) h.2.2.1
    have hsnapshots : defaulted format given "snapshots" [] = some r.snapshots :=
      defaulted_of_gives_unless hgives (by simp [toValue, List.lookup_append])
        List.isEmpty_iff.1 h.2.2.2.1
    have hinstrument : optional format given "instrument" = some r.instrument :=
      optional_of_gives hgives (by simp [toValue, List.lookup_append]) nofun
        (isPortable _ _)
    have hcosts : defaulted format given "costs" Table.empty = some r.costs :=
      defaulted_of_gives hgives (by simp [toValue, List.lookup_append]) h.2.2.2.2
    simp [ofValue?, hgiven, hname, hpath0, hpath1, hcontrollers, hsnapshots, hinstrument,
      hcosts]
  isPortable_of_ofValue? {w r} hall h := by
    simp only [ofValue?, Option.bind_eq_bind, Option.bind_eq_some_iff] at h
    obtain ⟨given, hgiven, name, -, path0, hpath0, path1, hpath1, controllers, hcontrollers,
      snapshots, hsnapshots, instrument, -, costs, hcosts, heq⟩ := h
    cases heq
    have hrange := givesInRange hall hgiven
    have hnone : IsPortable .json ControllerTable.empty :=
      ⟨⟨isPortable_empty, isPortable_empty⟩, isPortable_empty⟩
    exact ⟨isPortable_of_optional hrange hpath0, isPortable_of_optional hrange hpath1,
      isPortable_of_defaulted hrange hcontrollers hnone,
      isPortable_of_defaulted hrange hsnapshots isPortable_nil,
      isPortable_of_defaulted hrange hcosts isPortable_empty⟩

end Rig

/-! ## Designs and catalogs -/

namespace DesignComponent

theorem writesFields (format : Format) (c : DesignComponent) :
    WritesFields format fieldNames (toValue c).fields :=
  .append (.append (.append (.field (isPortable _ _)) (.field (isPortable _ _)))
    (.fieldUnless (isPortable _ _))) (.fieldUnless (isPortable _ _))

instance : LawfulRecord DesignComponent where
  expresses_toValue {format c} _ := (writesFields format c).expresses_object (by decide)
  ofValue?_of_same {format c w} _ hsame := by
    obtain ⟨given, hgiven, hgives⟩ :=
      fieldsOf?_of_same (writesFields format c) (by decide) hsame
    have hkind : defaulted format given "type" "" = some c.kind :=
      defaulted_of_gives hgives (by simp [toValue, List.lookup_append]) (isPortable _ _)
    have hname : required format given "name" = some c.name :=
      required_of_gives hgives (by simp [toValue, List.lookup_append]) (isPortable _ _)
    have hdescription : defaulted format given "description" "" = some c.description :=
      defaulted_of_gives_unless hgives (by simp [toValue, List.lookup_append])
        String.isEmpty_iff.1 (isPortable _ _)
    have hsettings : defaulted format given "settings" "" = some c.settings :=
      defaulted_of_gives_unless hgives (by simp [toValue, List.lookup_append])
        String.isEmpty_iff.1 (isPortable _ _)
    simp [ofValue?, hgiven, hkind, hname, hdescription, hsettings]
  isPortable_of_ofValue? _ _ := isPortable _ _

end DesignComponent

namespace DesignSnapshot

theorem writesFields {format : Format} {s : DesignSnapshot}
    (hparams : IsPortable format s.params) :
    WritesFields format fieldNames (toValue s).fields :=
  .append (.append (.append (.append (.field (isPortable _ _)) (.field (isPortable _ _)))
    (.fieldIfSome (isPortable _ _))) (.fieldIfSome (isPortable _ _))) (.fieldUnless hparams)

instance : LawfulRecord DesignSnapshot where
  expresses_toValue h := (writesFields h).expresses_object (by decide)
  ofValue?_of_same {format s w} h hsame := by
    obtain ⟨given, hgiven, hgives⟩ := fieldsOf?_of_same (writesFields h) (by decide) hsame
    have hname : required format given "name" = some s.name :=
      required_of_gives hgives (by simp [toValue, List.lookup_append]) (isPortable _ _)
    have hactive : defaulted format given "active_blocks" [] = some s.activeBlocks :=
      defaulted_of_gives hgives (by simp [toValue, List.lookup_append]) (isPortable _ _)
    have hguitar : optional format given "guitar_model" = some s.guitarModel :=
      optional_of_gives hgives (by simp [toValue, List.lookup_append]) nofun
        (isPortable _ _)
    have htuning : optional format given "tuning" = some s.tuning :=
      optional_of_gives hgives (by simp [toValue, List.lookup_append]) nofun
        (isPortable _ _)
    have hparams : defaulted format given "params" Table.empty = some s.params :=
      defaulted_of_gives_unless hgives (by simp [toValue, List.lookup_append])
        eq_empty_of_isEmpty h
    simp [ofValue?, hgiven, hname, hactive, hguitar, htuning, hparams]
  isPortable_of_ofValue? {w s} hall h := by
    simp only [ofValue?, Option.bind_eq_bind, Option.bind_eq_some_iff] at h
    obtain ⟨given, hgiven, name, -, activeBlocks, -, guitarModel, -, tuning, -,
      params, hparams, heq⟩ := h
    cases heq
    show IsPortable .json params
    exact isPortable_of_defaulted (givesInRange hall hgiven) hparams isPortable_empty

end DesignSnapshot

namespace Design

theorem writesFields {format : Format} {d : Design}
    (hsnapshots : IsPortable format d.snapshots) :
    WritesFields format fieldNames (toValue d).fields :=
  .append (.append (.append (.append (.append (.fieldUnless (isPortable _ _))
    (.fieldUnless (isPortable _ _))) (.fieldIfSome (isPortable _ _)))
    (.fieldIfSome (isPortable _ _))) (.field (isPortable _ _))) (.field hsnapshots)

instance : LawfulRecord Design where
  expresses_toValue h := (writesFields h).expresses_object (by decide)
  ofValue?_of_same {format d w} h hsame := by
    obtain ⟨given, hgiven, hgives⟩ := fieldsOf?_of_same (writesFields h) (by decide) hsame
    have hname : defaulted format given "suggested_name" "" = some d.suggestedName :=
      defaulted_of_gives_unless hgives (by simp [toValue, List.lookup_append])
        String.isEmpty_iff.1 (isPortable _ _)
    have hexplanation : defaulted format given "explanation" "" = some d.explanation :=
      defaulted_of_gives_unless hgives (by simp [toValue, List.lookup_append])
        String.isEmpty_iff.1 (isPortable _ _)
    have hguitar : optional format given "guitar_model" = some d.guitarModel :=
      optional_of_gives hgives (by simp [toValue, List.lookup_append]) nofun
        (isPortable _ _)
    have htuning : optional format given "tuning" = some d.tuning :=
      optional_of_gives hgives (by simp [toValue, List.lookup_append]) nofun
        (isPortable _ _)
    have hchain : defaulted format given "chain" [] = some d.chain :=
      defaulted_of_gives hgives (by simp [toValue, List.lookup_append]) (isPortable _ _)
    have hsnapshots : defaulted format given "snapshots" [] = some d.snapshots :=
      defaulted_of_gives hgives (by simp [toValue, List.lookup_append]) h
    simp [ofValue?, hgiven, hname, hexplanation, hguitar, htuning, hchain, hsnapshots]
  isPortable_of_ofValue? {w d} hall h := by
    simp only [ofValue?, Option.bind_eq_bind, Option.bind_eq_some_iff] at h
    obtain ⟨given, hgiven, suggestedName, -, explanation, -, guitarModel, -, tuning, -,
      chain, -, snapshots, hsnapshots, heq⟩ := h
    cases heq
    show IsPortable .json snapshots
    exact isPortable_of_defaulted (givesInRange hall hgiven) hsnapshots isPortable_nil

end Design

namespace CatalogEntry

theorem writesFields {format : Format} {e : CatalogEntry Float} (h : IsPortable format e) :
    WritesFields format fieldNames (toValue e).fields :=
  .append (.append (.append (.append (.field (isPortable _ _))
    (.fieldUnless (isPortable _ _))) (.fieldUnless (isPortable _ _))) (.field h.1))
    (.field h.2)

instance : LawfulRecord (CatalogEntry Float) where
  expresses_toValue h := (writesFields h).expresses_object (by decide)
  ofValue?_of_same {format e w} h hsame := by
    obtain ⟨given, hgiven, hgives⟩ := fieldsOf?_of_same (writesFields h) (by decide) hsame
    have hinternal : required format given "InternalName" = some e.internalName :=
      required_of_gives hgives (by simp [toValue, List.lookup_append]) (isPortable _ _)
    have hname : defaulted format given "Name" "" = some e.name :=
      defaulted_of_gives_unless hgives (by simp [toValue, List.lookup_append])
        String.isEmpty_iff.1 (isPortable _ _)
    have hbased : defaulted format given "BasedOn" "" = some e.basedOn :=
      defaulted_of_gives_unless hgives (by simp [toValue, List.lookup_append])
        String.isEmpty_iff.1 (isPortable _ _)
    have hmono : defaulted format given "DSP_Mono" 0 = some e.monoCost :=
      defaulted_of_gives hgives (by simp [toValue, List.lookup_append]) h.1
    have hstereo : defaulted format given "DSP_Stereo" 0 = some e.stereoCost :=
      defaulted_of_gives hgives (by simp [toValue, List.lookup_append]) h.2
    simp [ofValue?, hgiven, hinternal, hname, hbased, hmono, hstereo]
  isPortable_of_ofValue? {w e} hall h := by
    simp only [ofValue?, Option.bind_eq_bind, Option.bind_eq_some_iff] at h
    obtain ⟨given, hgiven, internalName, -, name, -, basedOn, -, mono, hmono,
      stereo, hstereo, heq⟩ := h
    cases heq
    have hrange := givesInRange hall hgiven
    have hzero : IsPortable .json (0 : Float) := by
      show Float.isFinite 0 = true
      decide +kernel
    exact ⟨isPortable_of_defaulted hrange hmono hzero,
      isPortable_of_defaulted hrange hstereo hzero⟩

end CatalogEntry

end SignalChain
