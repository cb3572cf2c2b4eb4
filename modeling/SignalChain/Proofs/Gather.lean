import SignalChain.Proofs.Table

/-!
# Entries with repeated keys

A table has one value for a key, and a list of entries may have many.  Entries
are put into a table one by one, and each step puts a value together with what
the table has for its key.  If it does not matter how the values of a key are
grouped, the table is found to have all of them, put together in order.  Storing
the values puts two of them together as the second alone.
-/

namespace SignalChain

namespace Table

/-! ## All values of a key -/

section Gathering

variable {κ α : Type} [DecidableEq κ] {f : α → α → α}

/-- Everything that a list of entries has for a key, put together in order. -/
def gather (f : α → α → α) (key : κ) : List (κ × α) → Option α
  | [] => none
  | (k, value) :: rest =>
      Option.merge f (if key = k then some value else none) (gather f key rest)

theorem gather_eq_none_iff {key : κ} {entries : List (κ × α)} :
    gather f key entries = none ↔ ∀ entry ∈ entries, entry.1 ≠ key := by
  induction entries with
  | nil => simp [gather]
  | cons entry rest ih =>
      rw [gather, Option.merge_eq_none_iff, ih, List.forall_mem_cons, ite_eq_right_iff]
      refine and_congr_left fun _ => ?_
      simp [eq_comm]

theorem gather_append [Std.Associative f] (key : κ) (entries others : List (κ × α)) :
    gather f key (entries ++ others) =
      Option.merge f (gather f key entries) (gather f key others) := by
  induction entries with
  | nil => exact Option.merge_none_left.symm
  | cons entry rest ih =>
      rw [List.cons_append, gather, gather, ih]
      exact (Std.Associative.assoc _ _ _).symm

theorem gather_perm [Std.Associative f] [Std.Commutative f] {entries others : List (κ × α)}
    (h : entries.Perm others) (key : κ) : gather f key entries = gather f key others := by
  induction h with
  | nil => rfl
  | cons entry _ ih => rw [gather, gather, ih]
  | swap entry other rest =>
      simp only [gather]
      ac_rfl
  | trans _ _ ih ih' => exact ih.trans ih'

end Gathering

/-! ## Look-ups -/

section Lookup

variable {κ α : Type} [Ord κ] [DecidableEq κ] {f : α → α → α}

theorem gather_of_ordered [Std.LawfulEqOrd κ] {entries : List (κ × α)}
    (h : entries.Pairwise (fun a b => compare a.1 b.1 = .lt)) (key : κ) :
    gather f key entries = lookupEntry key entries := by
  induction entries with
  | nil => rfl
  | cons entry rest ih =>
      obtain ⟨hfirst, hrest⟩ := List.pairwise_cons.1 h
      rw [gather, lookupEntry]
      by_cases hkey : key = entry.1
      · -- A second entry of this key would have to come after itself.
        have hnone : gather f key rest = none := by
          refine gather_eq_none_iff.2 fun other hother heq => ?_
          have hlt := hfirst other hother
          rw [heq, hkey] at hlt
          simp at hlt
        rw [if_pos hkey, if_pos (Std.LawfulEqOrd.compare_eq_iff_eq.2 hkey), hnone,
          Option.merge_none_right]
      · rw [if_neg hkey, if_neg fun heq => hkey (Std.LawfulEqOrd.eq_of_compare heq), ih hrest,
          Option.merge_none_left]

theorem gather_toList [Std.LawfulEqOrd κ] (t : Table κ α) (key : κ) :
    gather f key t.toList = t.get? key :=
  gather_of_ordered t.ordered key

theorem get?_foldl [Std.Associative f] {step : Table κ α → κ × α → Table κ α}
    (hstep : ∀ t entry key, (step t entry).get? key =
      Option.merge f (t.get? key) (if key = entry.1 then some entry.2 else none))
    (t : Table κ α) (entries : List (κ × α)) (key : κ) :
    (entries.foldl step t).get? key = Option.merge f (t.get? key) (gather f key entries) := by
  induction entries generalizing t with
  | nil => exact Option.merge_none_right.symm
  | cons entry rest ih =>
      rw [List.foldl_cons, ih, hstep, gather]
      exact Std.Associative.assoc _ _ _

end Lookup

/-! ## The last value of a key -/

section Last

variable {κ α : Type} [DecidableEq κ]

/-- Of two values the second. -/
def second (_ value : α) : α :=
  value

instance : Std.Associative (second : α → α → α) :=
  ⟨fun _ _ _ => rfl⟩

theorem merge_second (before after : Option α) :
    Option.merge second before after = after.or before := by
  cases before <;> cases after <;> rfl

theorem gather_second_eq_some_iff {key : κ} {value : α} {entries : List (κ × α)} :
    gather second key entries = some value ↔
      ∃ before after, entries = before ++ (key, value) :: after ∧
        ∀ entry ∈ after, entry.1 ≠ key := by
  constructor
  · intro h
    induction entries with
    | nil => cases h
    | cons entry rest ih =>
        rw [gather, merge_second] at h
        cases hrest : gather second key rest with
        | some found =>
            rw [hrest, Option.some_or] at h
            obtain ⟨before, after, rfl, hafter⟩ := ih (hrest.trans h)
            exact ⟨entry :: before, after, rfl, hafter⟩
        | none =>
            rw [hrest, Option.none_or, Option.ite_none_right_eq_some] at h
            obtain ⟨rfl, hvalue⟩ := h
            cases hvalue
            exact ⟨[], rest, rfl, gather_eq_none_iff.1 hrest⟩
  · rintro ⟨before, after, rfl, hafter⟩
    rw [gather_append, gather, gather_eq_none_iff.2 hafter, if_pos rfl, Option.merge_none_right,
      merge_second, Option.some_or]

variable [Ord κ] [Std.TransOrd κ] [Std.LawfulEqOrd κ]

theorem get?_insertMany (t : Table κ α) (entries : List (κ × α)) (key : κ) :
    (t.insertMany entries).get? key = (gather second key entries).or (t.get? key) := by
  rw [← merge_second]
  refine get?_foldl (fun t entry key => ?_) t entries key
  rw [get?_insert, merge_second]
  split <;> rfl

theorem get?_ofList (entries : List (κ × α)) (key : κ) :
    (ofList entries).get? key = gather second key entries := by
  rw [ofList, get?_insertMany, get?_empty, Option.or_none]

theorem get?_override (t u : Table κ α) (key : κ) :
    (t.override u).get? key = (u.get? key).or (t.get? key) := by
  rw [← gather_toList (f := second) u key]
  exact get?_insertMany t u.toList key

theorem override_override_self (t u : Table κ α) : t.override (t.override u) = t.override u := by
  refine eq_of_get? fun key => ?_
  rw [get?_override, get?_override, Option.or_assoc, Option.or_self]

end Last

end Table

end SignalChain
