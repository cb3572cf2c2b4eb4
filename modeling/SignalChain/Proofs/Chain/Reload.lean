import SignalChain.Proofs.Chain.Seen
import SignalChain.Proofs.Rig.Loadable

/-!
# Views of a rig that was written and read again

A rig that was read from a text of either format is written as JSON.  It can be
read back exactly when it fits JSON, and it has its old views as long as the
digits of its numbers are read as the same numbers.
-/

namespace SignalChain

open Document Record

/-! ## What every reader leaves true -/

/-- Whatever is read of a type has a property. -/
def AlwaysRead (α : Type) [Record α] (p : α → Prop) : Prop :=
  ∀ (format : Format) (v : Value) (a : α), ofValue? format v = some a → p a

namespace AlwaysRead

variable {α : Type} [Record α] {p : α → Prop}

theorem defaulted (h : AlwaysRead α p) {format : Format} {given : List (String × Value)}
    {name : String} {value a : α} (hread : Record.defaulted format given name value = some a)
    (hvalue : p value) : p a := by
  simp only [Record.defaulted] at hread
  split at hread
  · cases hread
    exact hvalue
  · exact h _ _ a hread

omit [Record α] in
theorem of_get?_empty (key : String) (a : α)
    (h : (Table.empty : Table String α).get? key = some a) : p a := by
  cases h

theorem table (h : AlwaysRead α p) :
    AlwaysRead (Table String α) fun t => ∀ key a, t.get? key = some a → p a := by
  intro format v t hread key a hget
  cases v with
  | object fields =>
      obtain ⟨entries, hentries, rfl⟩ := Option.map_eq_some_iff.1 hread
      have hmem : (key, a) ∈ entries :=
        Table.mem_of_mem_toList_ofList (Table.mem_toList_iff.2 hget)
      obtain ⟨field, -, hfield⟩ := exists_of_mem_mapM hentries hmem
      obtain ⟨b, hb, heq⟩ := Option.map_eq_some_iff.1 hfield
      cases heq
      exact h _ _ _ hb
  | _ => cases hread

theorem perPath (h : AlwaysRead α p) :
    AlwaysRead (PerPath α) fun m => ∀ path key a, m.get? path key = some a → p a := by
  intro format v m hread
  simp only [ofValue?, Option.bind_eq_bind, Option.bind_eq_some_iff] at hread
  obtain ⟨given, -, path0, hpath0, path1, hpath1, heq⟩ := hread
  cases heq
  intro path
  cases path with
  | path0 => exact h.table.defaulted hpath0 of_get?_empty
  | path1 => exact h.table.defaulted hpath1 of_get?_empty

end AlwaysRead

/-- The controller is the one that its own number is read as. -/
def Assignment.HasCode (a : Assignment) : Prop :=
  ControllerKind.ofCode a.kind.code = a.kind

theorem Assignment.alwaysRead_hasCode : AlwaysRead Assignment Assignment.HasCode := by
  intro format v a hread
  simp only [ofValue?, Option.bind_eq_bind, Option.bind_eq_some_iff] at hread
  obtain ⟨given, -, kind, hkind, min, -, max, -, heq⟩ := hread
  cases heq
  obtain ⟨w, -, hw⟩ := Option.bind_eq_some_iff.1 hkind
  obtain ⟨code, -, rfl⟩ := Option.map_eq_some_iff.1 hw
  show ControllerKind.ofCode (ControllerKind.ofCode code).code = _
  rw [ControllerKind.code_ofCode]

namespace ControllerTable

/-- Every controller of the table is the one that its own number is read as. -/
structure HasCodes (t : ControllerTable) : Prop where
  blocks : ∀ path key entries, t.blocks.get? path key = some entries →
    ∀ param a, entries.get? param = some a → a.HasCode
  instrument : ∀ param a, t.instrument.get? param = some a → a.HasCode

theorem hasCodes_empty : empty.HasCodes where
  blocks path key entries hentries := by
    cases path <;> cases hentries
  instrument := AlwaysRead.of_get?_empty

theorem alwaysRead_hasCodes : AlwaysRead ControllerTable HasCodes := by
  have hassignments := Assignment.alwaysRead_hasCode.table
  intro format v t hread
  simp only [ofValue?, Option.bind_eq_bind, Option.bind_eq_some_iff] at hread
  obtain ⟨given, -, blocks, hblocks, instrument, hinstrument, heq⟩ := hread
  cases heq
  exact ⟨hassignments.perPath.defaulted hblocks hasCodes_empty.blocks,
    hassignments.defaulted hinstrument hasCodes_empty.instrument⟩

end ControllerTable

theorem Rig.alwaysRead_hasCodes : AlwaysRead (Rig Float) fun r => r.controllers.HasCodes := by
  intro format v r hread
  simp only [ofValue?, Option.bind_eq_bind, Option.bind_eq_some_iff] at hread
  obtain ⟨given, -, name, -, path0, -, path1, -, controllers, hcontrollers, snapshots, -,
    instrument, -, costs, -, heq⟩ := hread
  cases heq
  exact ControllerTable.alwaysRead_hasCodes.defaulted hcontrollers ControllerTable.hasCodes_empty

/-! ## What is seen of the rig that is read back -/

section Tables

variable {α β : Type} [Record α] {level : Nat} {g : α → β}

theorem Table.map_eq_of_resaved? (hlevel : level < 127) {t u : Table String α}
    (h : resaved? level t = some u)
    (hentry : ∀ key a b, t.get? key = some a → resaved? (level + 1) a = some b → g b = g a) :
    u.map (fun _ => g) = t.map fun _ => g := by
  have hstored : ∀ entry ∈ t.toList, t.get? entry.1 = some entry.2 :=
    fun _ hmem => Table.mem_toList_iff.1 hmem
  have hread := (List.forall₂_and_left _ _).2
    ⟨hstored, (resaved?_table_eq_some_iff hlevel).1 h⟩
  have hmapped : List.Forall₂ (· = ·) (u.toList.map fun entry => (entry.1, g entry.2))
      (t.toList.map fun entry => (entry.1, g entry.2)) := by
    rw [List.forall₂_map_left_iff, List.forall₂_map_right_iff]
    refine hread.flip.imp ?_
    intro read entry hboth
    obtain ⟨hget, hkey, hvalue⟩ := hboth
    rw [hkey, hentry _ _ _ hget hvalue]
  exact Table.ext_entries (List.forall₂_eq_eq_eq ▸ hmapped)

theorem PerPath.map_eq_of_resaved? (hlevel : level < 126) {m n : PerPath α}
    (h : resaved? level m = some n)
    (hentry : ∀ path key a b, m.get? path key = some a → resaved? (level + 2) a = some b →
      g b = g a) :
    n.map g = m.map g := by
  rw [PerPath.resaved?_eq hlevel] at h
  obtain ⟨path0, hpath0, hrest⟩ := Option.bind_eq_some_iff.1 h
  obtain ⟨path1, hpath1, heq⟩ := Option.bind_eq_some_iff.1 hrest
  cases heq
  have hmap0 := Table.map_eq_of_resaved? (by omega) hpath0 (hentry .path0)
  have hmap1 := Table.map_eq_of_resaved? (by omega) hpath1 (hentry .path1)
  rw [PerPath.map, PerPath.map, hmap0, hmap1]

end Tables

theorem Assignment.seen_of_resaved? {level : Nat} (hlevel : level < 126) {a b : Assignment}
    (hcode : a.HasCode) (h : resaved? level a = some b) : b.seen = a.seen := by
  rw [resaved?_eq hlevel] at h
  obtain ⟨min, -, hrest⟩ := Option.bind_eq_some_iff.1 h
  obtain ⟨max, -, heq⟩ := Option.bind_eq_some_iff.1 hrest
  cases heq
  exact congrArg ofKind hcode

theorem ControllerTable.seen_of_resaved? {level : Nat} (hlevel : level < 120)
    {t read : ControllerTable} (hcodes : t.HasCodes) (h : resaved? level t = some read) :
    read.seen = t.seen := by
  rw [resaved?_eq (by omega)] at h
  obtain ⟨blocks, hblocks, hrest⟩ := Option.bind_eq_some_iff.1 h
  obtain ⟨instrument, hinstrument, heq⟩ := Option.bind_eq_some_iff.1 hrest
  cases heq
  have hinstruments : Assignments.seen instrument = Assignments.seen t.instrument := by
    refine Table.map_eq_of_resaved? (by omega) hinstrument ?_
    intro param a b hget
    exact Assignment.seen_of_resaved? (by omega) (hcodes.instrument param a hget)
  have htables : blocks.map Assignments.seen = t.blocks.map Assignments.seen := by
    refine PerPath.map_eq_of_resaved? (by omega) hblocks ?_
    intro path key entries others hentries hothers
    refine Table.map_eq_of_resaved? (by omega) hothers ?_
    intro param a b hget
    have hcode := hcodes.blocks path key entries hentries param a hget
    exact Assignment.seen_of_resaved? (by omega) hcode
  rw [seen, seen, htables, hinstruments]

theorem Hint.seen_of_resaved? {level : Nat} (hlevel : level < 126) {hint read : Hint}
    (h : resaved? level hint = some read) : read.seen = hint.seen := by
  rw [resaved?_eq hlevel] at h
  obtain ⟨params, hparams, heq⟩ := Option.bind_eq_some_iff.1 h
  cases heq
  have hnames : params.map (fun _ _ => anyValue) = hint.params.map fun _ _ => anyValue :=
    Table.map_eq_of_resaved? (by omega) hparams fun _ _ _ _ _ => rfl
  rw [seen, seen, hnames]

theorem Snapshot.seen_of_resaved? {level : Nat} (hlevel : level < 120) {s read : Snapshot}
    (hkeeps : ∀ path key name x, s.paramValue? path key name = some x →
      rereadFloat? x = some x)
    (h : resaved? level s = some read) : read.seen = s.seen := by
  have hparams : resavedIfSome? (level + 1) s.params = some s.params := by
    refine resavedIfSome?_eq_self ?_
    intro m hm
    refine PerPath.resaved?_eq_self (by omega) ?_
    intro path key entries hentries
    refine resaved?_table_self (by omega) ?_
    intro name x hget
    have hstored : s.paramValue? path key name = some x :=
      Option.bind_eq_some_iff.2 ⟨m, hm, Option.bind_eq_some_iff.2 ⟨entries, hentries, hget⟩⟩
    rw [resaved?_float, hkeeps path key name x hstored]
  rw [resaved?_eq hlevel, hparams, Option.bind_some] at h
  obtain ⟨hint, hhint, heq⟩ := Option.bind_eq_some_iff.1 h
  cases heq
  have hseen : hint.map Hint.seen = s.hint.map Hint.seen := by
    cases hs : s.hint with
    | none =>
        rw [hs] at hhint
        cases hhint
        rfl
    | some old =>
        rw [hs] at hhint
        obtain ⟨new, hnew, rfl⟩ := Option.map_eq_some_iff.1 hhint
        exact congrArg some (Hint.seen_of_resaved? (by omega) hnew)
  rw [seen, seen, hseen]

namespace Rig

theorem seen_of_resaved? {r r' : Rig Float} (hkeeps : r.KeepsNumbers)
    (hcodes : r.controllers.HasCodes) (h : resaved? 0 r = some r') :
    r'.seen = r.seen := by
  have hpath : ∀ path : DspPath, resavedIfSome? 1 (r.path? path) = some (r.path? path) := by
    intro path
    refine resavedIfSome?_eq_self ?_
    intro blocks hblocks
    refine resaved?_table_self (by omega) ?_
    intro key block hget
    have hblock : r.block? path key = some block :=
      Option.bind_eq_some_iff.2 ⟨blocks, hblocks, hget⟩
    exact Block.resaved?_eq_self (by omega) fun name x hparam => hkeeps x (.param hblock hparam)
  have hcosts : resaved? 1 r.costs = some r.costs := by
    refine resaved?_table_self (by omega) ?_
    intro model x hget
    rw [resaved?_float]
    exact hkeeps x (.cost hget)
  have hpath0 : resavedIfSome? 1 r.path0 = some r.path0 := hpath .path0
  have hpath1 : resavedIfSome? 1 r.path1 = some r.path1 := hpath .path1
  rw [resaved?_eq, hpath0, Option.bind_some, hpath1, Option.bind_some] at h
  obtain ⟨controllers, hcontrollers, hrest⟩ := Option.bind_eq_some_iff.1 h
  obtain ⟨snapshots, hsnapshots, hlast⟩ := Option.bind_eq_some_iff.1 hrest
  rw [hcosts, Option.bind_some] at hlast
  cases hlast
  have htable := ControllerTable.seen_of_resaved? (by omega) hcodes hcontrollers
  have hlist : snapshots.map Snapshot.seen = r.snapshots.map Snapshot.seen := by
    rw [resaved?_list (by omega), mapM_eq_some_iff] at hsnapshots
    have hread := (List.forall₂_and_left _ _).2 ⟨fun s hs => hs, hsnapshots⟩
    rw [← List.forall₂_eq_eq_eq, List.forall₂_map_left_iff, List.forall₂_map_right_iff]
    refine hread.flip.imp ?_
    intro read s hboth
    obtain ⟨hs, hone⟩ := hboth
    exact Snapshot.seen_of_resaved? (by omega)
      (fun path key name x hget => hkeeps x (.setting hs hget)) hone
  rw [seen, seen, htable, hlist]

end Rig

/-! ## Views -/

theorem saved_as_json_exact {text : String} {r : Rig Float} (h : read? .toml text = some r) :
    ∃ saved, write? .json r = some saved ∧
      ((∃ r' : Rig Float, read? .json saved = some r') ↔ r.FitsJson) ∧
      ∀ r' : Rig Float, read? .json saved = some r' → r.KeepsNumbers →
        ∀ (e : Engine Float) (index : Nat), e.resolve r' index = e.resolve r index := by
  obtain ⟨saved, hwrite, hread⟩ := exists_write?_json r
  obtain ⟨v, -, hvalue⟩ := Option.bind_eq_some_iff.1 h
  refine ⟨saved, hwrite, ?_, ?_⟩
  · rw [hread, ← Option.isSome_iff_exists, Rig.isSome_resaved?_iff]
  · intro r' hr' hkeeps e index
    rw [hread] at hr'
    have hseen := Rig.seen_of_resaved? hkeeps (Rig.alwaysRead_hasCodes _ _ _ hvalue) hr'
    rw [← e.resolve_seen r', hseen, e.resolve_seen]

/-- A rig with a controller range that has no upper end. -/
def openRange : String :=
  "[path0.dly]\nmodel = \"HD2_DelaySimple\"\n[path0.dly.params]\nMix = 0.25\n" ++
    "[controllers.blocks.path0.dly.Mix]\ncontroller = 9\nmin = 0.0\nmax = inf\n" ++
    "[[snapshots]]\nname = \"Wet\"\n[snapshots.params.path0.dly]\nMix = 0.75\n" ++
    "[costs]\nHD2_DelaySimple = 12.5\n"

theorem saved_as_json_exact_openRange :
    ∃ r : Rig Float, read? .toml openRange = some r ∧ r.KeepsNumbers ∧ r.FitsJson ∧
      ∃ saved, ∃ r' : Rig Float, write? .json r = some saved ∧ read? .json saved = some r' ∧
        ∀ (e : Engine Float) (index : Nat), e.resolve r' index = e.resolve r index := by
  have hread : (read? .toml openRange : Option (Rig Float)).any (fun r =>
      decide r.KeepsNumbers && (resaved? 0 r).isSome) = true := by
    decide +kernel
  obtain ⟨r, hr⟩ : ∃ r : Rig Float, read? .toml openRange = some r :=
    Option.isSome_iff_exists.1 (Option.isSome_of_any hread)
  rw [hr, Option.any_some, Bool.and_eq_true, decide_eq_true_iff] at hread
  obtain ⟨hkeeps, hresaved⟩ := hread
  have hfits := Rig.isSome_resaved?_iff.1 hresaved
  obtain ⟨saved, hwrite, hloads, hviews⟩ := saved_as_json_exact hr
  obtain ⟨r', hr'⟩ := hloads.2 hfits
  exact ⟨r, hr, hkeeps, hfits, saved, r', hwrite, hr', hviews r' hr' hkeeps⟩

/-- A rig with a cost that is warned of and counted as zero. -/
def infiniteCost : String :=
  "[path0]\n[costs]\nHD2_ReverbPlate = inf\n"

/-- Not every rig that has views can be read back. -/
theorem saved_as_json_lost_infiniteCost :
    ∃ r : Rig Float, read? .toml infiniteCost = some r ∧
      (∃ view, Engine.standard.resolve r 0 = .ok view) ∧
      ∃ saved, write? .json r = some saved ∧ (read? .json saved : Option (Rig Float)) = none := by
  have hpath : ∀ r ∈ (read? .toml infiniteCost : Option (Rig Float)), r.HasPath := by
    decide +kernel
  have hlost : ((read? .toml infiniteCost : Option (Rig Float)).bind (write? .json)).map
      (fun saved => (read? .json saved : Option (Rig Float)).isNone) = some true := by
    decide +kernel
  obtain ⟨saved, hwritten, hnone⟩ := Option.map_eq_some_iff.1 hlost
  obtain ⟨r, hr, hwrite⟩ := Option.bind_eq_some_iff.1 hwritten
  exact ⟨r, hr, ⟨_, Engine.standard.resolve_of_hasPath (hpath r hr) 0⟩, saved, hwrite,
    Option.isNone_iff_eq_none.1 hnone⟩

end SignalChain
