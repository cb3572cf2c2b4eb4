import SignalChain.Proofs.Record.Basic

/-!
# Fields written and read

The fields of a record are written in the order of their names, with some left
out, so no name stands twice.  Whatever order they are read in, each name has
the value that was written for it.
-/

namespace SignalChain

open Document Record

/-- The fields of an object. -/
@[simp] def Document.Value.fields : Value → List (String × Value)
  | .object fields => fields
  | _ => []

namespace Record

/-! ## Writing -/

/-- Fields under some of the names, in their order. -/
structure WritesNames (names : List String) (fields : List (String × Value)) : Prop where
  keys : (fields.map (·.1)).Sublist names

namespace WritesNames

theorem append {names others : List String} {fields more : List (String × Value)}
    (h : WritesNames names fields) (hmore : WritesNames others more) :
    WritesNames (names ++ others) (fields ++ more) where
  keys := by
    rw [List.map_append]
    exact h.keys.append hmore.keys

theorem nil {names : List String} : WritesNames names [] where
  keys := List.nil_sublist _

variable {α : Type} [Written α] {name : String}

theorem field {a : α} : WritesNames [name] (field name a) where
  keys := List.Sublist.refl _

theorem fieldIfSome {o : Option α} : WritesNames [name] (fieldIfSome name o) := by
  cases o with
  | none => exact nil
  | some a => exact field

theorem fieldUnless {skip : Bool} {a : α} : WritesNames [name] (fieldUnless skip name a) := by
  cases skip with
  | true => exact nil
  | false => exact field

end WritesNames

/-- Values of a format's data model under some of the names, in their order. -/
structure WritesFields (format : Format) (names : List String)
    (fields : List (String × Value)) : Prop extends WritesNames names fields where
  values : ∀ field ∈ fields, format.Expresses field.2

namespace WritesFields

variable {format : Format}

theorem append {names others : List String} {fields more : List (String × Value)}
    (h : WritesFields format names fields) (hmore : WritesFields format others more) :
    WritesFields format (names ++ others) (fields ++ more) where
  toWritesNames := h.toWritesNames.append hmore.toWritesNames
  values := List.forall_mem_append.2 ⟨h.values, hmore.values⟩

theorem nil {names : List String} : WritesFields format names [] where
  toWritesNames := .nil
  values := by simp

theorem expresses_object {names : List String} {fields : List (String × Value)}
    (h : WritesFields format names fields) (hnames : names.Nodup) :
    format.Expresses (.object fields) := by
  refine .intro (h.keys.nodup hnames) ?_
  intro v hmem
  obtain ⟨field, hfield, rfl⟩ := List.mem_map.1 hmem
  exact h.values field hfield

variable {α : Type} [Record α] [Portable α] [LawfulRecord α] {name : String}

theorem field {a : α} (h : IsPortable format a) :
    WritesFields format [name] (field name a) where
  toWritesNames := .field
  values := by
    simp only [Record.field, List.forall_mem_singleton]
    exact expresses_toValue h

theorem fieldIfSome {o : Option α} (h : IsPortable format o) :
    WritesFields format [name] (fieldIfSome name o) := by
  cases o with
  | none => exact nil
  | some a => exact field (h a rfl)

theorem fieldUnless {skip : Bool} {a : α} (h : IsPortable format a) :
    WritesFields format [name] (fieldUnless skip name a) := by
  cases skip with
  | true => exact nil
  | false => exact field h

end WritesFields

section Lookup

variable {α : Type} [Written α]

@[simp] theorem lookup_field (name other : String) (a : α) :
    (field name a).lookup other = if other = name then some (toValue a) else none := by
  by_cases h : other = name
  · simp [field, h]
  · have hne : (other == name) = false := by simpa using h
    simp [field, List.lookup_cons, h, hne]

@[simp] theorem lookup_fieldIfSome (name other : String) (o : Option α) :
    (fieldIfSome name o).lookup other = if other = name then o.map toValue else none := by
  cases o with
  | none => simp [fieldIfSome]
  | some a => simp [fieldIfSome]

@[simp] theorem lookup_fieldUnless (skip : Bool) (name other : String) (a : α) :
    (fieldUnless skip name a).lookup other =
      if other = name then (if skip then none else some (toValue a)) else none := by
  cases skip with
  | true => simp [fieldUnless]
  | false => simp [fieldUnless]

end Lookup

/-! ## Reading what was written -/

/-- Under each name the same data as was written there. -/
def GivesFields (fields given : List (String × Value)) : Prop :=
  ∀ name, Option.Rel Value.Same (fields.lookup name) (given.lookup name)

theorem lookup_eq_some_iff_mem {fields : List (String × Value)}
    (hnodup : (fields.map (·.1)).Nodup) {name : String} {v : Value} :
    fields.lookup name = some v ↔ (name, v) ∈ fields := by
  induction fields with
  | nil => simp
  | cons field rest ih =>
      obtain ⟨other, u⟩ := field
      obtain ⟨hother, hrest⟩ := List.nodup_cons.1 hnodup
      rw [List.lookup_cons]
      split
      · next heq =>
          have hname : name = other := by simpa using heq
          subst hname
          have hnot : (name, v) ∉ rest := fun hmem =>
            hother (List.mem_map.2 ⟨(name, v), hmem, rfl⟩)
          simp [hnot, eq_comm]
      · next hne =>
          have hname : name ≠ other := by simpa using hne
          simp [ih hrest, hname]

theorem lookup_eq_of_perm {fields others : List (String × Value)}
    (hnodup : (fields.map (·.1)).Nodup) (hperm : fields.Perm others) (name : String) :
    fields.lookup name = others.lookup name := by
  have hothers : (others.map (·.1)).Nodup := (hperm.map _).nodup_iff.1 hnodup
  ext v
  rw [lookup_eq_some_iff_mem hnodup, lookup_eq_some_iff_mem hothers, hperm.mem_iff]

theorem rel_lookup {fields others : List (String × Value)}
    (h : List.Forall₂ Value.SameField fields others) (name : String) :
    Option.Rel Value.Same (fields.lookup name) (others.lookup name) := by
  induction h with
  | nil => exact .none
  | @cons field other fields others hhead htail ih =>
      obtain ⟨hname, hvalue⟩ := hhead
      rw [List.lookup_cons, List.lookup_cons, ← hname]
      split
      · exact .some hvalue
      · exact ih

theorem keys_eq_of_sameField {fields others : List (String × Value)}
    (h : List.Forall₂ Value.SameField fields others) :
    fields.map (·.1) = others.map (·.1) := by
  induction h with
  | nil => rfl
  | cons hhead _ ih => rw [List.map_cons, List.map_cons, hhead.1, ih]

theorem fieldsOf?_of_same {format : Format} {names : List String}
    {fields : List (String × Value)} {w : Value} (h : WritesFields format names fields)
    (hnames : names.Nodup) (hsame : Value.Same (.object fields) w) :
    ∃ given, fieldsOf? format names w = some given ∧ GivesFields fields given := by
  obtain ⟨others, given, rfl, heach, horder⟩ := hsame.of_object
  have hkeys := keys_eq_of_sameField heach
  have hothers : (others.map (·.1)).Nodup := hkeys ▸ h.keys.nodup hnames
  have hgiven : (given.map (·.1)).Nodup := (horder.map _).nodup_iff.1 hothers
  have hknown : given.filter (fun field => names.contains field.1) = given := by
    refine List.filter_eq_self.2 ?_
    intro field hfield
    have hmem : field.1 ∈ fields.map (·.1) := by
      rw [hkeys]
      exact List.mem_map_of_mem (horder.mem_iff.2 hfield)
    simpa using h.keys.subset hmem
  refine ⟨given, ?_, ?_⟩
  · simp only [fieldsOf?, hknown, if_pos hgiven]
  · intro name
    rw [← lookup_eq_of_perm hothers horder]
    exact rel_lookup heach name

section Given

variable {α : Type} [Record α] [Portable α] [LawfulRecord α]
variable {format : Format} {fields given : List (String × Value)} {name : String}

theorem lookup_of_gives {v : Value} (hgives : GivesFields fields given)
    (hwritten : fields.lookup name = some v) :
    ∃ w, given.lookup name = some w ∧ Value.Same v w := by
  have hrel := hgives name
  rw [hwritten] at hrel
  generalize given.lookup name = found at hrel ⊢
  cases hrel with
  | some hsame => exact ⟨_, rfl, hsame⟩

theorem lookup_none_of_gives (hgives : GivesFields fields given)
    (hwritten : fields.lookup name = none) : given.lookup name = none := by
  have hrel := hgives name
  rw [hwritten] at hrel
  generalize given.lookup name = found at hrel ⊢
  cases hrel
  rfl

theorem required_of_gives {a : α} (hgives : GivesFields fields given)
    (hwritten : fields.lookup name = some (toValue a)) (h : IsPortable format a) :
    required format given name = some a := by
  obtain ⟨w, hw, hsame⟩ := lookup_of_gives hgives hwritten
  rw [required, hw, Option.bind_some, ofValue?_of_same h hsame]

theorem defaulted_of_gives {a value : α} (hgives : GivesFields fields given)
    (hwritten : fields.lookup name = some (toValue a)) (h : IsPortable format a) :
    defaulted format given name value = some a := by
  obtain ⟨w, hw, hsame⟩ := lookup_of_gives hgives hwritten
  rw [defaulted, hw]
  exact ofValue?_of_same h hsame

/-- A field that is left out has the value that it is read with when missing. -/
theorem defaulted_of_gives_unless {a value : α} {skip : Bool}
    (hgives : GivesFields fields given)
    (hwritten : fields.lookup name = if skip then none else some (toValue a))
    (hskip : skip = true → a = value) (h : IsPortable format a) :
    defaulted format given name value = some a := by
  cases skip with
  | true =>
      rw [defaulted, lookup_none_of_gives hgives hwritten, hskip rfl]
  | false => exact defaulted_of_gives hgives hwritten h

/-- A value is never taken for a missing one, since it is not written as null. -/
theorem optional_of_gives {o : Option α} (hgives : GivesFields fields given)
    (hwritten : fields.lookup name = o.map toValue) (hnull : ∀ a : α, toValue a ≠ .null)
    (h : IsPortable format o) : optional format given name = some o := by
  cases o with
  | none => rw [optional, lookup_none_of_gives hgives hwritten]
  | some a =>
      obtain ⟨w, hw, hsame⟩ := lookup_of_gives hgives hwritten
      have hread := ofValue?_of_same (h a rfl) hsame
      have hw' : w ≠ .null := by
        rintro rfl
        cases hv : toValue a <;> rw [hv] at hsame <;> cases hsame
        exact hnull a hv
      simp only [optional, hw, hread, Option.map_some]

end Given

/-! ## Reading JSON -/

/-- Under each name a value whose numbers are those of JSON. -/
def GivesInRange (given : List (String × Value)) : Prop :=
  ∀ name v, given.lookup name = some v → v.All Value.InRange

theorem mem_of_lookup {given : List (String × Value)} {name : String} {v : Value}
    (h : given.lookup name = some v) : v ∈ given.map (·.2) := by
  obtain ⟨before, after, rfl, -⟩ := List.lookup_eq_some_iff.1 h
  simp

theorem givesInRange {names : List String} {w : Value} {given : List (String × Value)}
    (hall : w.All Value.InRange) (h : fieldsOf? .json names w = some given) :
    GivesInRange given := by
  intro name v hlookup
  have hmem := mem_of_lookup hlookup
  cases w with
  | object fields =>
      simp only [fieldsOf?] at h
      split at h
      · cases h
        obtain ⟨field, hfield, rfl⟩ := List.mem_map.1 hmem
        exact hall.of_mem (List.mem_map_of_mem (List.mem_filter.1 hfield).1)
      · cases h
  | list items =>
      simp only [fieldsOf?, partsOf?] at h
      split at h
      · cases h
        obtain ⟨field, hfield, rfl⟩ := List.mem_map.1 hmem
        exact hall.of_mem (List.of_mem_zip hfield).2
      · cases h
  | _ => cases h

section Given

variable {α : Type} [Record α] [Portable α] [LawfulRecord α]
variable {given : List (String × Value)} {name : String}

theorem isPortable_of_required {a : α} (hgiven : GivesInRange given)
    (h : required .json given name = some a) : IsPortable .json a := by
  obtain ⟨v, hv, hread⟩ := Option.bind_eq_some_iff.1 h
  exact isPortable_of_ofValue? (hgiven name v hv) hread

theorem isPortable_of_defaulted {a value : α} (hgiven : GivesInRange given)
    (h : defaulted .json given name value = some a) (hvalue : IsPortable .json value) :
    IsPortable .json a := by
  simp only [defaulted] at h
  split at h
  · cases h
    exact hvalue
  · next v hv => exact isPortable_of_ofValue? (hgiven name v hv) h

theorem isPortable_of_optional {o : Option α} (hgiven : GivesInRange given)
    (h : optional .json given name = some o) : IsPortable .json o := by
  simp only [optional] at h
  split at h
  · cases h
    exact fun _ ha => nomatch ha
  · cases h
    exact fun _ ha => nomatch ha
  · next v _ hv =>
      obtain ⟨a, hread, rfl⟩ := Option.map_eq_some_iff.1 h
      intro b hb
      cases hb
      exact isPortable_of_ofValue? (hgiven name v hv) hread

end Given

end Record

end SignalChain
