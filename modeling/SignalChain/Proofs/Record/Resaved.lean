import SignalChain.Proofs.Document.Json.Reread
import SignalChain.Proofs.Record.Lawful

/-!
# What is read of a written record

Any record can be written as JSON, and what is then read is told part by part.
Doubles are read from their digits, and one that has no digits is missing where
it may be missing and otherwise makes the text unreadable.  All else stays.
-/

namespace SignalChain

open Document Record

namespace Record

/-- What is read of a written record, with so many lists and objects around it. -/
def resaved? {α : Type} [Record α] (level : Nat) (a : α) : Option α :=
  ofValue? .json (Json.reread level (toValue a))

theorem exists_write?_json {α : Type} [Record α] (a : α) :
    ∃ text, write? .json a = some text ∧ read? .json text = resaved? 0 a := by
  refine ⟨Json.write (toValue a), rfl, ?_⟩
  have hread : Format.json.read? (Json.write (toValue a)) = some (Json.reread 0 (toValue a)) :=
    Json.read?_write _
  unfold read? resaved?
  rw [hread, Option.bind_some]

/-! ## Fields -/

/-- Under each name what the value that was written there is read as. -/
def GivesReread (level : Nat) (fields given : List (String × Value)) : Prop :=
  ∀ name, given.lookup name = (fields.lookup name).map (Json.reread level)

theorem givesReread_rereadFields (level : Nat) (fields : List (String × Value)) :
    GivesReread level fields (Json.rereadFields level fields) := by
  intro name
  induction fields with
  | nil => rfl
  | cons field fields ih =>
      obtain ⟨other, v⟩ := field
      rw [Json.rereadFields, List.lookup_cons, List.lookup_cons, ih]
      split <;> rfl

theorem fieldsOf?_reread {names : List String} {v : Value} {level : Nat}
    (hobject : v = .object v.fields) (h : WritesNames names v.fields) (hnames : names.Nodup)
    (hlevel : level < 127) :
    ∃ given, fieldsOf? .json names (Json.reread level v) = some given ∧
      GivesReread (level + 1) v.fields given := by
  let given := Json.rereadFields (level + 1) v.fields
  have hkeys : given.map (·.1) = v.fields.map (·.1) := by
    simp only [given, Json.rereadFields_eq_map, List.map_map]
    rfl
  have hknown : given.filter (fun field => names.contains field.1) = given := by
    refine List.filter_eq_self.2 ?_
    intro field hfield
    have hmem : field.1 ∈ v.fields.map (·.1) := by
      rw [← hkeys]
      exact List.mem_map_of_mem hfield
    simpa using h.keys.subset hmem
  have hnodup : (given.map (·.1)).Nodup := by
    rw [hkeys]
    exact h.keys.nodup hnames
  refine ⟨given, ?_, givesReread_rereadFields _ _⟩
  have hvalue : Json.reread level v = .object given := by
    rw [hobject, Json.reread, Json.nested, if_pos hlevel]
  rw [hvalue]
  simp only [fieldsOf?, hknown, if_pos hnodup]

/-- What is read of a part that may be missing. -/
def resavedIfSome? {α : Type} [Record α] (level : Nat) : Option α → Option (Option α)
  | none => some none
  | some a => (resaved? level a).map some

theorem resavedIfSome?_eq_self {α : Type} [Record α] {level : Nat} {o : Option α}
    (h : ∀ a, o = some a → resaved? level a = some a) : resavedIfSome? level o = some o := by
  cases o with
  | none => rfl
  | some a => rw [resavedIfSome?, h a rfl, Option.map_some]

section Fields

variable {α : Type} [Record α] {level : Nat} {fields given : List (String × Value)}
variable {name : String}

theorem required_reread {a : α} (hgives : GivesReread level fields given)
    (hwritten : fields.lookup name = some (toValue a)) :
    required .json given name = resaved? level a := by
  rw [required, hgives, hwritten]
  rfl

theorem defaulted_reread {a value : α} (hgives : GivesReread level fields given)
    (hwritten : fields.lookup name = some (toValue a)) :
    defaulted .json given name value = resaved? level a := by
  rw [defaulted, hgives, hwritten]
  rfl

theorem defaulted_reread_unless {a value : α} {skip : Bool}
    (hgives : GivesReread level fields given)
    (hwritten : fields.lookup name = if skip then none else some (toValue a))
    (hskip : skip = true → resaved? level a = some value) :
    defaulted .json given name value = resaved? level a := by
  cases skip with
  | true =>
      rw [defaulted, hgives, hwritten, hskip rfl]
      rfl
  | false => exact defaulted_reread hgives hwritten

theorem optional_reread {o : Option α} (hgives : GivesReread level fields given)
    (hwritten : fields.lookup name = o.map toValue)
    (hnull : ∀ a : α, Json.reread level (toValue a) ≠ .null) :
    optional .json given name = resavedIfSome? level o := by
  cases o with
  | none =>
      rw [optional, hgives, hwritten]
      rfl
  | some a =>
      have hvalue := hnull a
      rw [optional, hgives, hwritten]
      unfold resavedIfSome? resaved?
      simp only [Option.map_some]

end Fields

/-! ## Lists and tables -/

section Collections

variable {α : Type} [Record α] {level : Nat}

theorem isSome_mapM_iff {α β : Type} {f : α → Option β} {as : List α} :
    (as.mapM f).isSome ↔ ∀ a ∈ as, (f a).isSome := by
  induction as with
  | nil => simp
  | cons a as ih =>
      rw [List.forall_mem_cons, ← ih, List.mapM_cons]
      cases f a with
      | none => simp
      | some b => cases as.mapM f <;> simp

theorem resaved?_list (hlevel : level < 127) (items : List α) :
    resaved? level items = items.mapM (resaved? (level + 1)) := by
  have hvalue : Json.reread level (toValue items) =
      .list ((items.map toValue).map (Json.reread (level + 1))) := by
    show Json.reread level (.list (items.map toValue)) = _
    rw [Json.reread, Json.nested, if_pos hlevel, Json.rereadItems_eq_map]
  unfold resaved?
  rw [hvalue]
  show ((items.map toValue).map (Json.reread (level + 1))).mapM (ofValue? .json) = _
  rw [List.map_map, List.mapM_map]
  rfl

theorem resaved?_table (hlevel : level < 127) (t : Table String α) :
    resaved? level t =
      (t.toList.mapM (fun entry =>
        (resaved? (level + 1) entry.2).map (fun a => (entry.1, a)))).map Table.ofList := by
  have hvalue : Json.reread level (toValue t) =
      .object (t.toList.map (fun entry =>
        (entry.1, Json.reread (level + 1) (toValue entry.2)))) := by
    show Json.reread level (.object (t.toList.map (fun entry => (entry.1, toValue entry.2)))) = _
    rw [Json.reread, Json.nested, if_pos hlevel, Json.rereadFields_eq_map, List.map_map]
    rfl
  unfold resaved?
  rw [hvalue]
  show ((t.toList.map (fun entry => (entry.1, Json.reread (level + 1) (toValue entry.2)))).mapM
    (fun field => (ofValue? .json field.2).map (fun a => (field.1, a)))).map Table.ofList = _
  rw [List.mapM_map]
  rfl

theorem isSome_resaved?_list_iff (hlevel : level < 127) {items : List α} :
    (resaved? level items).isSome ↔ ∀ a ∈ items, (resaved? (level + 1) a).isSome := by
  rw [resaved?_list hlevel, isSome_mapM_iff]

theorem isSome_resaved?_table_iff (hlevel : level < 127) {t : Table String α} :
    (resaved? level t).isSome ↔
      ∀ key a, t.get? key = some a → (resaved? (level + 1) a).isSome := by
  rw [resaved?_table hlevel, Option.isSome_map, isSome_mapM_iff]
  simp only [Option.isSome_map, Prod.forall, Table.mem_toList_iff]

/-- The entries of a read table are those that were written, under the same keys. -/
theorem resaved?_table_eq_some_iff (hlevel : level < 127) {t u : Table String α} :
    resaved? level t = some u ↔
      List.Forall₂ (fun entry read =>
        entry.1 = read.1 ∧ resaved? (level + 1) entry.2 = some read.2) t.toList u.toList := by
  have hentry : ∀ entry read : String × α,
      (resaved? (level + 1) entry.2).map (fun a => (entry.1, a)) = some read ↔
        entry.1 = read.1 ∧ resaved? (level + 1) entry.2 = some read.2 := by
    intro entry read
    obtain ⟨key, a⟩ := read
    rw [Option.map_eq_some_iff]
    simp only [Prod.mk.injEq]
    constructor
    · intro hread
      obtain ⟨b, hb, hkey, rfl⟩ := hread
      exact ⟨hkey, hb⟩
    · intro hread
      exact ⟨a, hread.2, hread.1, rfl⟩
  rw [resaved?_table hlevel, Option.map_eq_some_iff]
  simp only [mapM_eq_some_iff, hentry]
  constructor
  · intro hread
    obtain ⟨entries, heach, rfl⟩ := hread
    have hkeys : t.toList.map (·.1) = entries.map (·.1) := by
      rw [← List.forall₂_eq_eq_eq, List.forall₂_map_left_iff, List.forall₂_map_right_iff]
      exact heach.imp fun _ _ hread => hread.1
    have hordered : entries.Pairwise (fun a b => compare a.1 b.1 = .lt) := by
      have hsource : (t.toList.map (·.1)).Pairwise (fun k l => compare k l = .lt) :=
        List.pairwise_map.2 t.ordered
      rw [hkeys] at hsource
      exact List.pairwise_map.1 hsource
    have hlist : Table.ofList entries = ⟨entries, hordered⟩ :=
      Table.ofList_of_perm (t := ⟨entries, hordered⟩) (.refl _)
    rw [hlist]
    exact heach
  · intro heach
    exact ⟨u.toList, heach, Table.ofList_of_perm (.refl _)⟩

theorem resaved?_table_self (hlevel : level < 127) {t : Table String α}
    (h : ∀ key a, t.get? key = some a → resaved? (level + 1) a = some a) :
    resaved? level t = some t := by
  rw [resaved?_table_eq_some_iff hlevel, List.forall₂_same]
  intro entry hentry
  exact ⟨rfl, h entry.1 entry.2 (Table.mem_toList_iff.1 hentry)⟩

theorem resaved?_empty (hlevel : level < 127) :
    resaved? level (Table.empty : Table String α) = some Table.empty :=
  resaved?_table_self hlevel (by simp)

end Collections

/-! ## Doubles -/

/-- The double that the digits of a double are read as. -/
def rereadFloat? (x : Float) : Option Float :=
  if x.isFinite then
    match Json.rereadNumber (Json.floatLayout.write x) with
    | .float y => some y
    | _ => none
  else
    none

theorem reread_float_cases (level : Nat) (x : Float) :
    x.isFinite = false ∧ Json.reread level (.float x) = .null ∧ rereadFloat? x = none ∨
      x.isFinite = true ∧ Json.reread level (.float x) = .unusable ∧ rereadFloat? x = none ∨
      ∃ y, x.isFinite = true ∧ Json.reread level (.float x) = .float y ∧
        rereadFloat? x = some y := by
  rw [Json.reread, rereadFloat?]
  by_cases hx : x.isFinite = true
  · rw [if_pos hx, if_pos hx]
    obtain hunusable | ⟨y, hy⟩ := Json.rereadNumber_float hx
    · exact Or.inr (Or.inl ⟨hx, hunusable, by rw [hunusable]⟩)
    · exact Or.inr (Or.inr ⟨y, hx, hy, by rw [hy]⟩)
  · rw [if_neg hx, if_neg hx]
    exact Or.inl ⟨by simpa using hx, rfl, rfl⟩

theorem resaved?_float (level : Nat) (x : Float) : resaved? level x = rereadFloat? x := by
  show ofValue? .json (Json.reread level (.float x)) = _
  obtain ⟨-, hvalue, hread⟩ | ⟨-, hvalue, hread⟩ | ⟨y, -, hvalue, hread⟩ :=
    reread_float_cases level x <;> rw [hvalue, hread] <;> rfl

/-- What is read of one end of a range, which is missing if it has no digits. -/
def resavedEnd? : Option Float → Option (Option Float)
  | none => some none
  | some x => if x.isFinite then (rereadFloat? x).map some else some none

theorem optional_end {level : Nat} {fields given : List (String × Value)} {name : String}
    {o : Option Float} (hgives : GivesReread level fields given)
    (hwritten : fields.lookup name = o.map toValue) :
    optional .json given name = resavedEnd? o := by
  cases o with
  | none =>
      rw [optional, hgives, hwritten]
      rfl
  | some x =>
      have hlookup : given.lookup name = some (Json.reread level (.float x)) := by
        rw [hgives, hwritten]
        rfl
      rw [optional, hlookup]
      obtain ⟨hx, hvalue, hread⟩ | ⟨hx, hvalue, hread⟩ | ⟨y, hx, hvalue, hread⟩ :=
        reread_float_cases level x <;> simp [resavedEnd?, hvalue, hread, hx, ofValue?]

/-! ## What stays as it is -/

/-- Values without doubles, with so many lists and objects inside each other. -/
class Stays (α : Type) [Record α] (depth : outParam Nat) : Prop where
  self {level : Nat} (a : α) : level + depth ≤ 127 → resaved? level a = some a

instance : Stays String 0 where
  self _ _ := rfl

instance : Stays Bool 0 where
  self _ _ := rfl

instance : Stays Int32 0 where
  self {level} n _ := by
    have hlow := n.le_toInt
    have hhigh := n.toInt_lt
    have hfits : Format.json.hasInteger n.toInt = true :=
      hasInteger_of_mem (by omega) (by omega)
    have hnumber : Json.reread level (toValue n) = .int n.toInt :=
      Json.rereadNumber_intText hfits
    unfold resaved?
    rw [hnumber]
    show (integerIn? _ _ (.int n.toInt)).map Int32.ofInt = some n
    rw [integerIn?_of_mem (by omega) (by omega), Option.map_some, Int32.ofInt_toInt]

instance : Stays UInt32 0 where
  self {level} n _ := by
    have hhigh := n.toNat_lt
    have hfits : Format.json.hasInteger n.toNat = true :=
      hasInteger_of_mem (by omega) (by omega)
    have hnumber : Json.reread level (toValue n) = .int n.toNat :=
      Json.rereadNumber_intText hfits
    unfold resaved?
    rw [hnumber]
    show (integerIn? _ _ (.int n.toNat)).map (fun n => UInt32.ofNat n.toNat) = some n
    rw [integerIn?_of_mem (by omega) (by omega)]
    simp

section Collections

variable {α : Type} [Record α] {depth : Nat} [Stays α depth] {level : Nat}

instance : Stays (List α) (depth + 1) where
  self items h := by
    rw [resaved?_list (by omega), mapM_eq_some_iff, List.forall₂_same]
    exact fun a _ => Stays.self a (by omega)

instance : Stays (Table String α) (depth + 1) where
  self t h := resaved?_table_self (by omega) fun _ a _ => Stays.self a (by omega)

theorem resavedIfSome?_self (o : Option α) (h : level + depth ≤ 127) :
    resavedIfSome? level o = some o :=
  resavedIfSome?_eq_self fun a _ => Stays.self a h

variable {fields given : List (String × Value)} {name : String}

theorem required_stays {a : α} (hgives : GivesReread level fields given)
    (hwritten : fields.lookup name = some (toValue a)) (h : level + depth ≤ 127) :
    required .json given name = some a := by
  rw [required_reread hgives hwritten, Stays.self a h]

theorem defaulted_stays {a value : α} (hgives : GivesReread level fields given)
    (hwritten : fields.lookup name = some (toValue a)) (h : level + depth ≤ 127) :
    defaulted .json given name value = some a := by
  rw [defaulted_reread hgives hwritten, Stays.self a h]

theorem optional_stays {o : Option α} (hgives : GivesReread level fields given)
    (hwritten : fields.lookup name = o.map toValue)
    (hnull : (ofValue? .json .null : Option α) = none) (h : level + depth ≤ 127) :
    optional .json given name = some o := by
  have hvalue : ∀ a : α, Json.reread level (toValue a) ≠ .null := by
    intro a hread
    have hself := Stays.self a h
    rw [resaved?, hread, hnull] at hself
    cases hself
  rw [optional_reread hgives hwritten hvalue, resavedIfSome?_self o h]

end Collections

theorem reread_object_ne_null (level : Nat) (fields : List (String × Value)) :
    Json.reread level (.object fields) ≠ .null := by
  rw [Json.reread, Json.nested]
  intro hnull
  split at hnull <;> cases hnull

end Record

end SignalChain
