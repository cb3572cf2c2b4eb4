import SignalChain.Proofs.Document.Value
import SignalChain.Proofs.Table
import Mathlib.Data.List.Perm.Basic

/-!
# Reading back what was carried along

A canonical value is the canonical value of everything with the same data, in
whatever order the fields of its objects come.  The statements on lists and on
fields are general, since lists and tables of records are read the same way.
-/

namespace SignalChain

namespace Document

namespace Value

/-! ## Elements and fields -/

section Elements

variable {α : Type} {f : Value → Option α} {g : α → Value}

theorem mapM_of_same {items : List α} {others : List Value}
    (h : ∀ a ∈ items, ∀ w, Same (g a) w → f w = some a)
    (hsame : List.Forall₂ Same (items.map g) others) : others.mapM f = some items := by
  refine mapM_eq_some_iff.2 ?_
  induction items generalizing others with
  | nil =>
      have hnil : others = [] := by simpa using hsame
      rw [hnil]
      exact .nil
  | cons a items ih =>
      obtain ⟨w, rest, hw, hrest, rfl⟩ := List.forall₂_cons_left_iff.1 hsame
      have hrestore := ih (fun b hb => h b (List.mem_cons_of_mem _ hb)) hrest
      exact .cons (h a List.mem_cons_self w hw) hrestore

/-- Read the value of a field and keep its name. -/
def readField (f : Value → Option α) (field : String × Value) : Option (String × α) :=
  (f field.2).map (fun a => (field.1, a))

theorem readField_of_same {entry : String × α} {field : String × Value}
    (h : ∀ w, Same (g entry.2) w → f w = some entry.2)
    (hsame : SameField (entry.1, g entry.2) field) : readField f field = some entry := by
  obtain ⟨hname, hvalue⟩ := hsame
  rw [readField, h _ hvalue, Option.map_some, ← hname]

/-- The fields may come in another order, and then so do the entries read. -/
theorem mapM_readField_of_same {entries : List (String × α)}
    {others given : List (String × Value)}
    (h : ∀ entry ∈ entries, ∀ w, Same (g entry.2) w → f w = some entry.2)
    (hsame : List.Forall₂ SameField (entries.map (fun entry => (entry.1, g entry.2))) others)
    (horder : others.Perm given) :
    ∃ read, given.mapM (readField f) = some read ∧ read.Perm entries := by
  have hothers : List.Forall₂ (fun field entry => readField f field = some entry)
      others entries := by
    clear horder
    induction entries generalizing others with
    | nil =>
        have hnil : others = [] := by simpa using hsame
        rw [hnil]
        exact .nil
    | cons entry entries ih =>
        obtain ⟨field, rest, hfield, hrest, rfl⟩ := List.forall₂_cons_left_iff.1 hsame
        have hrestore := ih (fun e he => h e (List.mem_cons_of_mem _ he)) hrest
        exact .cons (readField_of_same (h entry List.mem_cons_self) hfield) hrestore
  obtain ⟨read, hread, hperm⟩ := List.perm_comp_forall₂ horder.symm hothers
  exact ⟨read, mapM_eq_some_iff.2 hread, hperm⟩

end Elements

/-! ## Canonical values -/

theorem isCanonicalList_iff (items : List Value) :
    isCanonicalList items = true ↔ ∀ v ∈ items, v.isCanonical = true := by
  induction items with
  | nil => simp [isCanonicalList]
  | cons item items ih => simp [isCanonicalList, ih]

theorem isCanonicalFields_iff (fields : List (String × Value)) :
    isCanonicalFields fields = true ↔ ∀ v ∈ fields.map (·.2), v.isCanonical = true := by
  induction fields with
  | nil => simp [isCanonicalFields]
  | cons field fields ih =>
      simp only [isCanonicalFields, Bool.and_eq_true, ih, List.map_cons, List.forall_mem_cons]

theorem canonicalList?_eq_mapM (items : List Value) :
    canonicalList? items = items.mapM canonical? := by
  induction items with
  | nil => rfl
  | cons item items ih => simp [canonicalList?, ih]

theorem canonicalFields?_eq_mapM (fields : List (String × Value)) :
    canonicalFields? fields = fields.mapM (readField canonical?) := by
  induction fields with
  | nil => rfl
  | cons field fields ih =>
      cases hv : field.2.canonical? <;> simp [canonicalFields?, ih, readField, hv]

theorem isCanonical_of_mem {v u : Value} (h : v.isCanonical = true)
    (hmem : u ∈ v.children) : u.isCanonical = true := by
  cases v with
  | list items => exact (isCanonicalList_iff items).1 h u hmem
  | object fields =>
      simp only [isCanonical, Bool.and_eq_true] at h
      exact (isCanonicalFields_iff fields).1 h.1 u hmem
  | _ => cases hmem

theorem sizeOf_lt_of_mem {v u : Value} (hmem : u ∈ v.children) : sizeOf u < sizeOf v := by
  cases v with
  | list items =>
      have hlt : sizeOf u < sizeOf items := List.sizeOf_lt_of_mem hmem
      simp
      omega
  | object fields =>
      obtain ⟨field, hfield, rfl⟩ := List.mem_map.1 hmem
      have hlt := List.sizeOf_lt_of_mem hfield
      obtain ⟨name, v⟩ := field
      simp at hlt ⊢
      omega
  | _ => cases hmem

theorem all_isCanonical {v : Value} (h : v.isCanonical = true) :
    v.All (fun u => u.isCanonical = true) :=
  .intro h (fun _ hmem => all_isCanonical (isCanonical_of_mem h hmem))
termination_by v
decreasing_by exact sizeOf_lt_of_mem hmem

theorem nodup_of_isCanonical {fields : List (String × Value)}
    (h : (Value.object fields).isCanonical = true) : (fields.map (·.1)).Nodup := by
  simp only [isCanonical, Bool.and_eq_true, decide_eq_true_eq] at h
  exact Table.keys_nodup ⟨fields, h.2⟩

theorem expresses_of_isCanonical {v : Value} (h : v.isCanonical = true) :
    Format.json.Expresses v := by
  refine (all_isCanonical h).and_imp (all_isCanonical h) ?_
  intro u hu _
  cases u with
  | null => rfl
  | int n => exact hu
  | float x => exact hu
  | object fields => exact nodup_of_isCanonical hu
  | unusable => cases hu
  | _ => trivial

theorem canonical?_of_same {v w : Value} (h : v.isCanonical = true) (hsame : Same v w) :
    w.canonical? = some v := by
  induction all_isCanonical h generalizing w with
  | @intro v hself hinside ih =>
      cases hsame with
      | null => rfl
      | bool => rfl
      | @int n =>
          have hrange : isInteger64 n = true := hself
          simp [canonical?, hrange]
      | @float x =>
          have hfinite : x.isFinite = true := hself
          simp [canonical?, hfinite]
      | text => rfl
      | @list items others each =>
          have hitems : others.mapM canonical? = some items := by
            refine mapM_of_same (fun u hmem w hw => ih u hmem (hinside u hmem).self hw) ?_
            simpa using each
          simp [canonical?, canonicalList?_eq_mapM, hitems]
      | @object fields others given names each order =>
          have hsorted : fields.Pairwise (fun a b => compare a.1 b.1 = .lt) := by
            simp only [isCanonical, Bool.and_eq_true, decide_eq_true_eq] at hself
            exact hself.2
          have hsame : List.Forall₂ SameField
              (fields.map (fun field => (field.1, id field.2))) others := by
            simpa using forall₂_sameField names each
          obtain ⟨read, hread, hperm⟩ := mapM_readField_of_same
            (fun field hfield w hw =>
              have hmem := List.mem_map_of_mem hfield
              ih field.2 hmem (hinside field.2 hmem).self hw) hsame order
          have htable : Table.ofList read = ⟨fields, hsorted⟩ := Table.ofList_of_perm hperm
          simp [canonical?, canonicalFields?_eq_mapM, hread, htable]

end Value

theorem Payload.ofValue?_of_same {p : Payload} {w : Value} (hsame : Value.Same p.value w) :
    Payload.ofValue? w = some p := by
  simp only [Payload.ofValue?, Value.canonical?_of_same p.canonical hsame, dif_pos p.canonical]

end Document

end SignalChain
