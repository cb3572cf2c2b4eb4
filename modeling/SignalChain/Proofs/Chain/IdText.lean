import SignalChain.Proofs.Document.Json.Reread
import SignalChain.Proofs.Table
import SignalChain.Proofs.Text.ByteOrder
import SignalChain.Record.View

/-!
# The texts of block ids

An id is written as the word for the instrument or as a path and a key, and the
key may hold anything, also a slash or the word itself.  The texts are in the
order of the ids all the same, byte by byte, so no two ids are written alike.  In
a document a budget therefore has one member for each id that it charges, in the
order of the ids, and a reader who keeps the members by name loses none.
-/

namespace SignalChain

namespace BlockId

/-! ## The order of ids -/

/-- Whether one id is listed before another. -/
inductive Precedes : BlockId → BlockId → Prop where
  | instrument (path : DspPath) (key : String) : Precedes .instrument (.onPath path key)
  | firstPath (key other : String) : Precedes (.onPath .path0 key) (.onPath .path1 other)
  | key (path : DspPath) {key other : String} (h : Text.bytes key < Text.bytes other) :
      Precedes (.onPath path key) (.onPath path other)

theorem compare_onPath (path : DspPath) (key other : String) :
    compare (BlockId.onPath path key) (.onPath path other) = compare key other := by
  cases path <;> rfl

theorem compare_eq_lt_iff (a b : BlockId) : compare a b = .lt ↔ a.Precedes b := by
  constructor
  · intro h
    cases a with
    | instrument =>
        cases b with
        | instrument => cases h
        | onPath path key => exact .instrument path key
    | onPath path key =>
        cases b with
        | instrument => cases path <;> cases h
        | onPath path' other =>
            by_cases hpath : path = path'
            · subst hpath
              rw [compare_onPath, Text.compare_eq_lt_iff_bytes_lt] at h
              exact .key path h
            · cases path <;> cases path'
              · exact absurd rfl hpath
              · exact .firstPath key other
              · cases h
              · exact absurd rfl hpath
  · intro h
    cases h with
    | instrument path key => cases path <;> rfl
    | firstPath key other => rfl
    | key path h =>
        rw [compare_onPath]
        exact Text.compare_eq_lt_iff_bytes_lt.2 h

theorem precedes_trichotomy (a b : BlockId) : a.Precedes b ∨ a = b ∨ b.Precedes a := by
  cases h : compare a b with
  | lt => exact Or.inl ((compare_eq_lt_iff a b).1 h)
  | eq => exact Or.inr (Or.inl (Std.LawfulEqOrd.eq_of_compare h))
  | gt => exact Or.inr (Or.inr ((compare_eq_lt_iff b a).1 (Std.OrientedCmp.lt_of_gt h)))

/-! ## The order of texts -/

theorem text_lt_text {a b : BlockId} (h : a.Precedes b) : a.text < b.text := by
  rw [String.lt_iff_toList_lt]
  cases h with
  | instrument path key =>
      -- The word for the instrument and the paths differ in the first letter.
      cases path <;> simp [text, DspPath.text, List.cons_lt_cons_iff]
  | firstPath key other => simp [text, DspPath.text, List.cons_lt_cons_iff]
  | key path h =>
      have hkeys := String.lt_iff_toList_lt.1 (Text.bytes_lt_bytes_iff.1 h)
      cases path <;> simpa [text, DspPath.text] using hkeys

theorem text_lt_text_iff {a b : BlockId} : a.text < b.text ↔ a.Precedes b := by
  constructor
  · intro h
    rcases precedes_trichotomy a b with hbefore | heq | hafter
    · exact hbefore
    · rw [heq] at h
      exact absurd h (lt_irrefl b.text)
    · exact absurd h (lt_asymm (text_lt_text hafter))
  · intro h
    exact text_lt_text h

theorem bytes_text_lt_iff (a b : BlockId) :
    Text.bytes a.text < Text.bytes b.text ↔ a.Precedes b := by
  rw [Text.bytes_lt_bytes_iff, text_lt_text_iff]

theorem text_inj {a b : BlockId} : a.text = b.text ↔ a = b := by
  constructor
  · intro h
    rcases precedes_trichotomy a b with hbefore | heq | hafter
    · exact absurd h (text_lt_text hbefore).ne
    · exact heq
    · exact absurd h (text_lt_text hafter).ne'
  · intro h
    rw [h]

end BlockId

/-! ## Members by text -/

namespace Table

variable {α β : Type}

theorem toList_precedes (t : Table BlockId α) :
    t.toList.Pairwise fun a b => a.1.Precedes b.1 := by
  apply t.ordered.imp
  intro a b h
  exact (BlockId.compare_eq_lt_iff a.1 b.1).1 h

/-- The entries of a table, each under the text of its id and with its value written. -/
def underTexts (t : Table BlockId α) (f : α → β) : List (String × β) :=
  t.toList.map fun entry => (entry.1.text, f entry.2)

theorem underTexts_ordered (t : Table BlockId α) (f : α → β) :
    (t.underTexts f).Pairwise fun a b => compare a.1 b.1 = .lt := by
  unfold underTexts
  rw [List.pairwise_map]
  apply t.toList_precedes.imp
  intro a b h
  rw [Text.compare_eq_lt_iff_bytes_lt]
  exact (BlockId.bytes_text_lt_iff a.1 b.1).2 h

theorem lookup_map_text (f : α → β) (entries : List (BlockId × α)) (id : BlockId) :
    (entries.map fun entry => (entry.1.text, f entry.2)).lookup id.text =
      (lookupEntry id entries).map f := by
  induction entries with
  | nil => rfl
  | cons head rest ih =>
      obtain ⟨other, value⟩ := head
      rw [List.map_cons, List.lookup_cons, lookupEntry]
      by_cases hid : id = other
      · subst hid
        simp
      · have htext : (id.text == other.text) = false := by
          rw [beq_eq_false_iff_ne]
          intro heq
          exact hid (BlockId.text_inj.1 heq)
        have hcompare : ¬ compare id other = .eq := by
          intro heq
          exact hid (Std.LawfulEqOrd.eq_of_compare heq)
        rw [htext, if_neg hcompare, ih]

theorem lookup_underTexts (t : Table BlockId α) (f : α → β) (id : BlockId) :
    (t.underTexts f).lookup id.text = (t.get? id).map f :=
  lookup_map_text f t.toList id

/--
What it means that a list of members stands for a table: there is one for each
id, in the order of the ids, under its text and with its value, and none is lost
where members are kept by name.
-/
structure ListedAs (t : Table BlockId α) (f : α → β) (members : List (String × β)) : Prop where
  ids_ordered : t.keys.Pairwise BlockId.Precedes
  names_eq : members.map (·.1) = t.keys.map BlockId.text
  names_ordered : members.Pairwise fun a b => Text.bytes a.1 < Text.bytes b.1
  lookup_eq : ∀ id : BlockId, members.lookup id.text = (t.get? id).map f
  kept : (Table.ofList members).toList = members

theorem listedAs_underTexts (t : Table BlockId α) (f : α → β) :
    t.ListedAs f (t.underTexts f) where
  ids_ordered := List.pairwise_map.2 t.toList_precedes
  names_eq := by
    simp [underTexts, keys, toList]
  names_ordered := by
    apply (t.underTexts_ordered f).imp
    intro a b h
    exact Text.compare_eq_lt_iff_bytes_lt.1 h
  lookup_eq := t.lookup_underTexts f
  kept := by
    have hsame : Table.ofList (t.underTexts f) = ⟨t.underTexts f, t.underTexts_ordered f⟩ :=
      ofList_of_perm (List.Perm.refl _)
    rw [hsame]
    rfl

end Table

/-! ## Budgets in documents -/

open Document

namespace Budget

theorem toValue_eq (b : Budget Float) :
    toValue b = .object [("total", toValue b.total),
      ("per_block", .object (b.perBlock.underTexts toValue)), ("ceiling", toValue b.ceiling)] :=
  rfl

/-- The text of a budget is read as the same members, with their costs as JSON gives them. -/
theorem read?_write_toValue (b : Budget Float) :
    Json.read? (Json.write (toValue b)) = some (.object
      [("total", Json.reread 1 (toValue b.total)),
        ("per_block", .object (b.perBlock.underTexts fun cost => Json.reread 2 (toValue cost))),
        ("ceiling", Json.reread 1 (toValue b.ceiling))]) := by
  have hmembers : Json.rereadFields 2 (b.perBlock.underTexts toValue) =
      b.perBlock.underTexts fun cost => Json.reread 2 (toValue cost) := by
    rw [Json.rereadFields_eq_map, Table.underTexts, List.map_map]
    rfl
  rw [Json.read?_write, toValue_eq]
  simp [Json.reread, Json.rereadFields, Json.nested, hmembers]

end Budget

/-! ## Ids and their texts -/

/--
The texts of ids are in the order of the ids and tell them apart.  So a budget in
a document has a member for each id that it charges, in the order of the ids,
both as it is written and as its text is read again.
-/
theorem ids_ordered_by_text :
    (∀ a b : BlockId, compare a b = .lt ↔ a.Precedes b) ∧
    (∀ a b : BlockId, a.Precedes b ↔ Text.bytes a.text < Text.bytes b.text) ∧
    (∀ a b : BlockId, a.text = b.text ↔ a = b) ∧
    ∀ b : Budget Float,
      (∃ members, b.perBlock.ListedAs toValue members ∧
        toValue b = .object [("total", toValue b.total), ("per_block", .object members),
          ("ceiling", toValue b.ceiling)]) ∧
      ∃ members, b.perBlock.ListedAs (fun cost => Json.reread 2 (toValue cost)) members ∧
        Json.read? (Json.write (toValue b)) = some (.object
          [("total", Json.reread 1 (toValue b.total)), ("per_block", .object members),
            ("ceiling", Json.reread 1 (toValue b.ceiling))]) := by
  refine ⟨BlockId.compare_eq_lt_iff, ?_, ?_, ?_⟩
  · intro a b
    exact (BlockId.bytes_text_lt_iff a b).symm
  · intro a b
    exact BlockId.text_inj
  · intro b
    constructor
    · exact ⟨_, b.perBlock.listedAs_underTexts toValue, b.toValue_eq⟩
    · exact ⟨_, b.perBlock.listedAs_underTexts _, b.read?_write_toValue⟩

/-- A budget whose keys are empty, hold a slash and look like the other ids. -/
def oddBudget : Budget Float :=
  (((Budget.empty.charge (.onPath .path1 "instrument") 12.5).charge
    (.onPath .path0 "path1/a") 2.5).charge .instrument 0).charge (.onPath .path0 "") 3

theorem ids_ordered_by_text_oddKeys :
    ∃ members, oddBudget.perBlock.ListedAs toValue members ∧
      toValue oddBudget = .object [("total", toValue oddBudget.total),
        ("per_block", .object members), ("ceiling", toValue oddBudget.ceiling)] ∧
      members.map (·.1) = ["instrument", "path0/", "path0/path1/a", "path1/instrument"] := by
  obtain ⟨-, -, -, hbudgets⟩ := ids_ordered_by_text
  obtain ⟨members, hlisted, hwritten⟩ := (hbudgets oddBudget).1
  refine ⟨members, hlisted, hwritten, ?_⟩
  rw [hlisted.names_eq]
  decide +kernel

end SignalChain
