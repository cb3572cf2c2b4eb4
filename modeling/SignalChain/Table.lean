/-!
# Tables sorted by key

A finite map kept as its list of entries, in strictly increasing order of the
keys.  Two tables are equal exactly when they hold the same entries, so the
records built from them can be compared as plain values.  The main statements
say what each operation does to a look-up: `get?_insert`, `get?_map` and
`get?_empty`.
-/

namespace SignalChain

/-- Entries in strictly increasing order of their keys. -/
structure Table (κ : Type) [Ord κ] (α : Type) where
  entries : List (κ × α)
  ordered : entries.Pairwise (fun a b => compare a.1 b.1 = .lt)

namespace Table

variable {κ α β : Type} [Ord κ]

theorem ext_entries {t u : Table κ α} (h : t.entries = u.entries) :
    t = u := by
  cases t
  cases u
  cases h
  rfl

instance [DecidableEq κ] [DecidableEq α] : DecidableEq (Table κ α) :=
  fun t u =>
    if h : t.entries = u.entries then
      isTrue (ext_entries h)
    else
      isFalse (fun heq => h (congrArg Table.entries heq))

/-- Entry by entry, with the comparison that the values bring along. -/
instance [BEq κ] [BEq α] : BEq (Table κ α) :=
  ⟨fun t u => t.entries == u.entries⟩

/-! ## Look-up and insertion -/

def lookupEntry (key : κ) : List (κ × α) → Option α
  | [] => none
  | (k, v) :: rest =>
      if compare key k = .eq then some v else lookupEntry key rest

/-- Put an entry into its place, over an entry with the same key. -/
def insertEntry (key : κ) (value : α) : List (κ × α) → List (κ × α)
  | [] => [(key, value)]
  | (k, v) :: rest =>
      match compare key k with
      | .lt => (key, value) :: (k, v) :: rest
      | .eq => (key, value) :: rest
      | .gt => (k, v) :: insertEntry key value rest

theorem mem_insertEntry {key : κ} {value : α} {entry : κ × α}
    {entries : List (κ × α)}
    (h : entry ∈ insertEntry key value entries) :
    entry = (key, value) ∨ entry ∈ entries := by
  induction entries with
  | nil =>
      simpa [insertEntry] using h
  | cons head rest ih =>
      obtain ⟨k, v⟩ := head
      simp only [insertEntry] at h
      split at h
      · simpa using h
      · rcases List.mem_cons.1 h with h | h
        · exact Or.inl h
        · exact Or.inr (List.mem_cons_of_mem _ h)
      · rcases List.mem_cons.1 h with h | h
        · exact Or.inr (h ▸ List.mem_cons_self)
        · rcases ih h with h | h
          · exact Or.inl h
          · exact Or.inr (List.mem_cons_of_mem _ h)

theorem insertEntry_ordered [Std.TransOrd κ] [Std.LawfulEqOrd κ]
    {key : κ} {value : α} {entries : List (κ × α)}
    (h : entries.Pairwise (fun a b => compare a.1 b.1 = .lt)) :
    (insertEntry key value entries).Pairwise
      (fun a b => compare a.1 b.1 = .lt) := by
  induction entries with
  | nil =>
      simp [insertEntry]
  | cons head rest ih =>
      obtain ⟨k, v⟩ := head
      have hrest := (List.pairwise_cons.1 h).2
      have hhead := (List.pairwise_cons.1 h).1
      simp only [insertEntry]
      split
      · next hlt =>
          refine List.pairwise_cons.2 ⟨?_, h⟩
          intro entry hmem
          rcases List.mem_cons.1 hmem with heq | hmem
          · subst heq
            exact hlt
          · exact Std.TransCmp.lt_trans hlt (hhead entry hmem)
      · next heq =>
          have hkey : key = k := Std.LawfulEqOrd.eq_of_compare heq
          subst hkey
          exact List.pairwise_cons.2 ⟨hhead, hrest⟩
      · next hgt =>
          refine List.pairwise_cons.2 ⟨?_, ih hrest⟩
          intro entry hmem
          rcases mem_insertEntry hmem with heq | hmem
          · subst heq
            exact Std.OrientedCmp.lt_of_gt hgt
          · exact hhead entry hmem

def empty : Table κ α :=
  ⟨[], List.Pairwise.nil⟩

instance : EmptyCollection (Table κ α) :=
  ⟨empty⟩

instance : Inhabited (Table κ α) :=
  ⟨empty⟩

def get? (t : Table κ α) (key : κ) : Option α :=
  lookupEntry key t.entries

def contains (t : Table κ α) (key : κ) : Bool :=
  (t.get? key).isSome

section Insertion

variable [Std.TransOrd κ] [Std.LawfulEqOrd κ]

def insert (t : Table κ α) (key : κ) (value : α) : Table κ α :=
  ⟨insertEntry key value t.entries, insertEntry_ordered t.ordered⟩

/-- Insert the entries in order, so that the last of two equal keys stays. -/
def insertMany (t : Table κ α) (entries : List (κ × α)) : Table κ α :=
  entries.foldl (fun t entry => t.insert entry.1 entry.2) t

/-- The table of a list of entries; the last of two equal keys stays. -/
def ofList (entries : List (κ × α)) : Table κ α :=
  insertMany empty entries

/-- All entries of both tables, those of the second in front. -/
def override (t u : Table κ α) : Table κ α :=
  t.insertMany u.entries

end Insertion

/-! ## Views and maps -/

def toList (t : Table κ α) : List (κ × α) :=
  t.entries

def keys (t : Table κ α) : List κ :=
  t.entries.map (·.1)

def size (t : Table κ α) : Nat :=
  t.entries.length

def isEmpty (t : Table κ α) : Bool :=
  t.entries.isEmpty

/-- Replace each value, with its key at hand. -/
def map (f : κ → α → β) (t : Table κ α) : Table κ β :=
  ⟨t.entries.map (fun entry => (entry.1, f entry.1 entry.2)),
    List.pairwise_map.2 t.ordered⟩

/-! ## What the operations do to a look-up -/

@[simp] theorem get?_empty (key : κ) :
    (empty : Table κ α).get? key = none :=
  rfl

theorem lookupEntry_insertEntry [Std.TransOrd κ] [Std.LawfulEqOrd κ]
    [DecidableEq κ] (key other : κ) (value : α) (entries : List (κ × α)) :
    lookupEntry other (insertEntry key value entries) =
      if other = key then some value else lookupEntry other entries := by
  induction entries with
  | nil =>
      simp [insertEntry, lookupEntry]
  | cons head rest ih =>
      obtain ⟨k, v⟩ := head
      simp only [insertEntry]
      split
      · simp [lookupEntry]
      · next heq =>
          have hkey : key = k := Std.LawfulEqOrd.eq_of_compare heq
          subst hkey
          by_cases hother : other = key <;> simp [lookupEntry, hother]
      · next hgt =>
          have hne : key ≠ k := by
            intro h
            subst h
            simp at hgt
          simp only [lookupEntry, ih, Std.LawfulEqOrd.compare_eq_iff_eq]
          by_cases hk : other = k
          · subst hk
            simp [Ne.symm hne]
          · simp [hk]

@[simp] theorem get?_insert [Std.TransOrd κ] [Std.LawfulEqOrd κ]
    [DecidableEq κ] (t : Table κ α) (key other : κ) (value : α) :
    (t.insert key value).get? other =
      if other = key then some value else t.get? other :=
  lookupEntry_insertEntry key other value t.entries

theorem lookupEntry_map (f : κ → α → β) [Std.LawfulEqOrd κ] (key : κ)
    (entries : List (κ × α)) :
    lookupEntry key (entries.map (fun entry => (entry.1, f entry.1 entry.2))) =
      (lookupEntry key entries).map (f key) := by
  induction entries with
  | nil =>
      rfl
  | cons head rest ih =>
      obtain ⟨k, v⟩ := head
      simp only [List.map_cons, lookupEntry, ih]
      split
      · next heq =>
          have hkey : key = k := Std.LawfulEqOrd.eq_of_compare heq
          subst hkey
          rfl
      · rfl

@[simp] theorem get?_map [Std.LawfulEqOrd κ] (f : κ → α → β)
    (t : Table κ α) (key : κ) :
    (t.map f).get? key = (t.get? key).map (f key) :=
  lookupEntry_map f key t.entries

end Table

end SignalChain
