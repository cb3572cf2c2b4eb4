import Mathlib.Data.List.Nodup
import SignalChain.Table

/-!
# Entries and look-ups

The entries of a table are exactly the pairs that its look-up answers with, and
no key has two of them.  Their order is that of the keys, so that a table is
made again from its entries in any order.
-/

namespace SignalChain

namespace Table

variable {κ α : Type} [Ord κ]

section Lookup

variable [Std.LawfulEqOrd κ]

theorem lookupEntry_eq_some_iff {entries : List (κ × α)}
    (h : entries.Pairwise (fun a b => compare a.1 b.1 = .lt)) {key : κ} {value : α} :
    lookupEntry key entries = some value ↔ (key, value) ∈ entries := by
  induction entries with
  | nil =>
      simp [lookupEntry]
  | cons head rest ih =>
      obtain ⟨k, v⟩ := head
      obtain ⟨hhead, hrest⟩ := List.pairwise_cons.1 h
      simp only [lookupEntry]
      split
      · next heq =>
          have hkey : key = k := Std.LawfulEqOrd.eq_of_compare heq
          subst hkey
          -- A second entry of this key would have to come after itself.
          have hnot : (key, value) ∉ rest := by
            intro hmem
            have hself := hhead _ hmem
            simp at hself
          simp [hnot, eq_comm]
      · next hne =>
          have hkey : key ≠ k := by
            intro hk
            subst hk
            simp at hne
          simp [ih hrest, hkey]

theorem mem_toList_iff {t : Table κ α} {key : κ} {value : α} :
    (key, value) ∈ t.toList ↔ t.get? key = some value :=
  (lookupEntry_eq_some_iff t.ordered).symm

theorem mem_keys_iff {t : Table κ α} {key : κ} : key ∈ t.keys ↔ (t.get? key).isSome := by
  unfold keys
  rw [List.mem_map, Option.isSome_iff_exists]
  constructor
  · rintro ⟨⟨k, value⟩, hmem, rfl⟩
    exact ⟨value, mem_toList_iff.1 hmem⟩
  · rintro ⟨value, hget⟩
    exact ⟨(key, value), mem_toList_iff.2 hget, rfl⟩

theorem keys_nodup (t : Table κ α) : (t.toList.map (·.1)).Nodup := by
  refine List.pairwise_map.2 (t.ordered.imp ?_)
  intro a b hlt heq
  rw [heq] at hlt
  simp at hlt

end Lookup

/-! ## The table of given entries -/

theorem eq_of_perm [Std.TransOrd κ] {t u : Table κ α} (h : t.toList.Perm u.toList) :
    t = u := by
  refine ext_entries (h.eq_of_pairwise ?_ t.ordered u.ordered)
  intro a b _ _ hab hba
  exact absurd hba (Std.OrientedCmp.not_lt_of_lt hab)

theorem eq_of_get? [Std.TransOrd κ] [Std.LawfulEqOrd κ] {t u : Table κ α}
    (h : ∀ key, t.get? key = u.get? key) : t = u := by
  have hnodup : ∀ v : Table κ α, v.toList.Nodup := fun v => v.keys_nodup.of_map
  refine eq_of_perm ((List.perm_ext_iff_of_nodup (hnodup t) (hnodup u)).2 ?_)
  intro entry
  obtain ⟨key, value⟩ := entry
  rw [mem_toList_iff, mem_toList_iff, h]

section Insertion

variable [Std.LawfulEqOrd κ]

theorem insertEntry_perm {key : κ} {value : α} {entries : List (κ × α)}
    (h : key ∉ entries.map (·.1)) :
    (insertEntry key value entries).Perm ((key, value) :: entries) := by
  induction entries with
  | nil =>
      exact .refl _
  | cons head rest ih =>
      obtain ⟨k, v⟩ := head
      simp only [List.map_cons, List.mem_cons, not_or] at h
      simp only [insertEntry]
      split
      · exact .refl _
      · next heq => exact absurd (Std.LawfulEqOrd.eq_of_compare heq) h.1
      · exact ((ih h.2).cons _).trans (.swap _ _ _)

variable [Std.TransOrd κ]

theorem mem_toList_insertMany {t : Table κ α} {entries : List (κ × α)} {entry : κ × α}
    (h : entry ∈ (t.insertMany entries).toList) : entry ∈ t.toList ∨ entry ∈ entries := by
  induction entries generalizing t with
  | nil =>
      exact Or.inl h
  | cons head rest ih =>
      rcases ih h with hmem | hmem
      · rcases mem_insertEntry hmem with rfl | hmem
        · exact Or.inr List.mem_cons_self
        · exact Or.inl hmem
      · exact Or.inr (List.mem_cons_of_mem _ hmem)

theorem mem_of_mem_toList_ofList {entries : List (κ × α)} {entry : κ × α}
    (h : entry ∈ (ofList entries).toList) : entry ∈ entries := by
  rcases mem_toList_insertMany h with hmem | hmem
  · cases hmem
  · exact hmem

theorem toList_insertMany_perm (t : Table κ α) {entries : List (κ × α)}
    (h : ((t.toList ++ entries).map (·.1)).Nodup) :
    (t.insertMany entries).toList.Perm (t.toList ++ entries) := by
  induction entries generalizing t with
  | nil =>
      simp [insertMany]
  | cons entry rest ih =>
      obtain ⟨key, value⟩ := entry
      have hkey : key ∉ t.toList.map (·.1) := by
        rw [List.map_append, List.nodup_append] at h
        intro hmem
        exact h.2.2 key hmem key (by simp) rfl
      have hinsert : (t.insert key value).toList.Perm ((key, value) :: t.toList) :=
        insertEntry_perm hkey
      have hmove : ((t.insert key value).toList ++ rest).Perm
          (t.toList ++ (key, value) :: rest) :=
        (hinsert.append_right rest).trans List.perm_middle.symm
      have hnodup : (((t.insert key value).toList ++ rest).map (·.1)).Nodup :=
        (hmove.map _).nodup_iff.2 h
      exact (ih _ hnodup).trans hmove

theorem ofList_of_perm {t : Table κ α} {entries : List (κ × α)}
    (h : entries.Perm t.toList) : ofList entries = t := by
  have hnodup : (entries.map (·.1)).Nodup :=
    (h.map _).nodup_iff.2 t.keys_nodup
  exact eq_of_perm ((toList_insertMany_perm empty hnodup).trans h)

end Insertion

@[simp] theorem toList_empty : (empty : Table κ α).toList = [] :=
  rfl

theorem map_self (t : Table κ α) : t.map (fun _ value => value) = t :=
  ext_entries (List.map_id t.entries)

@[simp] theorem keys_map {β : Type} (f : κ → α → β) (t : Table κ α) :
    (t.map f).keys = t.keys := by
  simp [keys, map]

end Table

end SignalChain
