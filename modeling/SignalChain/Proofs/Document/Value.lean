import SignalChain.Document.Format
import Mathlib.Data.List.Forall2

/-!
# What a text format keeps

A format can express the values of its data model, and it keeps such a value if
reading what it wrote gives the same data.  The order of an object's fields is
no part of the data: TOML puts the fields that are no tables in front.
-/

namespace SignalChain

theorem mapM_eq_some_iff {α β : Type} {f : α → Option β} {as : List α} {bs : List β} :
    as.mapM f = some bs ↔ List.Forall₂ (fun a b => f a = some b) as bs := by
  induction as generalizing bs with
  | nil =>
      simp [eq_comm]
  | cons a as ih =>
      simp only [List.mapM_cons, Option.bind_eq_bind, Option.pure_def,
        Option.bind_eq_some_iff, List.forall₂_cons_left_iff, ih, Option.some.injEq]
      constructor
      · rintro ⟨b, hb, bs', hbs, rfl⟩
        exact ⟨b, bs', hb, hbs, rfl⟩
      · rintro ⟨b, bs', hb, hbs, rfl⟩
        exact ⟨b, hb, bs', hbs, rfl⟩

theorem exists_of_mem_mapM {α β : Type} {f : α → Option β} {as : List α} {bs : List β}
    (h : as.mapM f = some bs) {b : β} (hmem : b ∈ bs) : ∃ a ∈ as, f a = some b := by
  induction mapM_eq_some_iff.1 h with
  | nil => cases hmem
  | @cons a b' as bs' hab hrest ih =>
      rcases List.mem_cons.1 hmem with rfl | hmem
      · exact ⟨a, List.mem_cons_self, hab⟩
      · obtain ⟨a', ha', heq⟩ := ih (mapM_eq_some_iff.2 hrest) hmem
        exact ⟨a', List.mem_cons_of_mem _ ha', heq⟩

namespace Document

namespace Value

/-- The values directly inside a list or an object. -/
def children : Value → List Value
  | .list items => items
  | .object fields => fields.map (·.2)
  | _ => []

/-- A property of a value and of every value inside. -/
inductive All (p : Value → Prop) : Value → Prop where
  | intro {v : Value} (self : p v) (inside : ∀ u ∈ v.children, All p u) : All p v

section All

variable {p q r : Value → Prop}

theorem All.self {v : Value} (h : v.All p) : p v := by
  obtain ⟨hself, -⟩ := h
  exact hself

theorem All.of_mem {v u : Value} (h : v.All p) (hmem : u ∈ v.children) : u.All p := by
  obtain ⟨-, hinside⟩ := h
  exact hinside u hmem

theorem All.and_imp {v : Value} (hp : v.All p) (hq : v.All q)
    (himp : ∀ u, p u → q u → r u) : v.All r := by
  induction hp with
  | intro hself _ ih =>
      exact .intro (himp _ hself hq.self) (fun u hmem => ih u hmem (hq.of_mem hmem))

/-- A scalar has nothing inside. -/
theorem All.scalar {v : Value} (h : p v) (hscalar : v.children = []) : v.All p :=
  .intro h (by simp [hscalar])

end All

/-- The same data; of an object only the order of the fields may differ. -/
inductive Same : Value → Value → Prop where
  | null : Same .null .null
  | bool {b : Bool} : Same (.bool b) (.bool b)
  | int {n : Int} : Same (.int n) (.int n)
  | float {x : Float} : Same (.float x) (.float x)
  | text {s : String} : Same (.text s) (.text s)
  | list {items others : List Value} (each : List.Forall₂ Same items others) :
      Same (.list items) (.list others)
  | object {fields others given : List (String × Value)}
      (names : fields.map (·.1) = others.map (·.1))
      (each : List.Forall₂ Same (fields.map (·.2)) (others.map (·.2)))
      (order : others.Perm given) : Same (.object fields) (.object given)

/-- Two fields of one name with the same data. -/
def SameField (field other : String × Value) : Prop :=
  field.1 = other.1 ∧ Same field.2 other.2

theorem forall₂_sameField {fields others : List (String × Value)}
    (names : fields.map (·.1) = others.map (·.1))
    (each : List.Forall₂ Same (fields.map (·.2)) (others.map (·.2))) :
    List.Forall₂ SameField fields others := by
  induction fields generalizing others with
  | nil =>
      have hnil : others = [] := by simpa using names.symm
      rw [hnil]
      exact .nil
  | cons field fields ih =>
      cases others with
      | nil => cases names
      | cons other others =>
          simp only [List.map_cons, List.cons.injEq, List.forall₂_cons] at names each
          exact .cons ⟨names.1, each.1⟩ (ih names.2 each.2)

theorem Same.of_list {items : List Value} {w : Value} (h : Same (.list items) w) :
    ∃ others, w = .list others ∧ List.Forall₂ Same items others := by
  cases h with
  | list each => exact ⟨_, rfl, each⟩

theorem Same.of_object {fields : List (String × Value)} {w : Value}
    (h : Same (.object fields) w) :
    ∃ others given, w = .object given ∧ List.Forall₂ SameField fields others ∧
      others.Perm given := by
  cases h with
  | object names each order => exact ⟨_, _, rfl, forall₂_sameField names each, order⟩

/-! ## A test of the data -/

mutual

/-- Whether two values hold the same data. -/
def sameAs : Value → Value → Bool
  | .null, .null => true
  | .bool a, .bool b => a == b
  | .int m, .int n => m == n
  | .float x, .float y => decide (x = y)
  | .text s, .text t => s == t
  | .list items, .list others => sameItems items others
  | .object fields, .object given => sameFields fields given
  | _, _ => false

def sameItems : List Value → List Value → Bool
  | [], [] => true
  | v :: items, w :: others => sameAs v w && sameItems items others
  | _, _ => false

/-- Each field is looked for among those given, and taken away from them. -/
def sameFields : List (String × Value) → List (String × Value) → Bool
  | [], given => given.isEmpty
  | (name, v) :: fields, given =>
      match given.lookup name with
      | none => false
      | some w =>
          sameAs v w && sameFields fields (given.eraseP (fun field => field.1 == name))

end

theorem perm_eraseP_of_lookup {given : List (String × Value)} {name : String} {w : Value}
    (h : given.lookup name = some w) :
    ((name, w) :: given.eraseP (fun field => field.1 == name)).Perm given := by
  induction given with
  | nil => cases h
  | cons field rest ih =>
      obtain ⟨other, u⟩ := field
      by_cases heq : other = name
      · subst heq
        have hu : u = w := by simpa using h
        simp [hu]
      · have hrest : rest.lookup name = some w := by
          rw [List.lookup_cons] at h
          simpa [show (name == other) = false by simpa using Ne.symm heq] using h
        rw [List.eraseP_cons_of_neg (by simpa using heq)]
        exact (List.Perm.swap _ _ _).trans ((ih hrest).cons _)

mutual

theorem same_of_sameAs : ∀ {v w : Value}, sameAs v w = true → Same v w
  | .null, .null, _ => .null
  | .bool a, .bool b, h => by
      have hab : a = b := by simpa [sameAs] using h
      exact hab ▸ .bool
  | .int m, .int n, h => by
      have hmn : m = n := by simpa [sameAs] using h
      exact hmn ▸ .int
  | .float x, .float y, h => by
      have hxy : x = y := by simpa [sameAs] using h
      exact hxy ▸ .float
  | .text s, .text t, h => by
      have hst : s = t := by simpa [sameAs] using h
      exact hst ▸ .text
  | .list items, .list others, h => .list (same_of_sameItems h)
  | .object fields, .object given, h => by
      obtain ⟨others, hnames, heach, horder⟩ := same_of_sameFields h
      exact .object hnames heach horder

theorem same_of_sameItems : ∀ {items others : List Value}, sameItems items others = true →
    List.Forall₂ Same items others
  | [], [], _ => .nil
  | v :: items, w :: others, h => by
      simp only [sameItems, Bool.and_eq_true] at h
      exact .cons (same_of_sameAs h.1) (same_of_sameItems h.2)

theorem same_of_sameFields : ∀ {fields given : List (String × Value)},
    sameFields fields given = true →
      ∃ others : List (String × Value), fields.map (·.1) = others.map (·.1) ∧
        List.Forall₂ Same (fields.map (·.2)) (others.map (·.2)) ∧ others.Perm given
  | [], given, h => by
      have hnil : given = [] := List.isEmpty_iff.1 h
      exact ⟨[], rfl, .nil, hnil ▸ .refl _⟩
  | (name, v) :: fields, given, h => by
      simp only [sameFields] at h
      split at h
      · cases h
      · next w hw =>
          simp only [Bool.and_eq_true] at h
          have hvalue := same_of_sameAs h.1
          obtain ⟨others, hnames, heach, horder⟩ := same_of_sameFields h.2
          refine ⟨(name, w) :: others, by simp [hnames], .cons hvalue heach, ?_⟩
          exact (horder.cons _).trans (perm_eraseP_of_lookup hw)

end

end Value

namespace Format

/-- Whether a format has an integer. -/
def hasInteger : Format → Int → Bool
  | .json => isInteger64
  | .toml => isSigned64

/-- What a format asks of one value: numbers in its range, and no name twice. -/
def Datum (format : Format) : Value → Prop
  | .null => format = .json
  | .int n => format.hasInteger n = true
  | .float x => x.isFinite = true
  | .object fields => (fields.map (·.1)).Nodup
  | .unusable => False
  | _ => True

/-- The values of the data model of a format. -/
def Expresses (format : Format) (v : Value) : Prop :=
  v.All format.Datum

/-- What a format writes for a value of its data model is read as the same data. -/
def Keeps (format : Format) (v : Value) : Prop :=
  format.Expresses v → ∀ text, format.write? v = some text →
    ∃ w, format.read? text = some w ∧ Value.Same v w

end Format

namespace Toml

theorem areWritable_iff (items : List Value) :
    areWritable items = true ↔ ∀ v ∈ items, isWritable v = true := by
  induction items with
  | nil => simp [areWritable]
  | cons item items ih => simp [areWritable, ih]

theorem haveWritable_iff (fields : List (String × Value)) :
    haveWritable fields = true ↔ ∀ v ∈ fields.map (·.2), isWritable v = true := by
  induction fields with
  | nil => simp [haveWritable]
  | cons field fields ih =>
      simp only [haveWritable, Bool.and_eq_true, ih, List.map_cons, List.forall_mem_cons]

theorem isWritable_of_expresses {v : Value} (h : Format.toml.Expresses v) :
    isWritable v = true := by
  induction h with
  | @intro v hself _ ih =>
      cases v with
      | null => cases hself
      | bool b => rfl
      | int n => exact hself
      | float x => rfl
      | text s => rfl
      | list items => exact (areWritable_iff items).2 ih
      | object fields => exact (haveWritable_iff fields).2 ih
      | unusable => exact hself.elim

end Toml

namespace Format

/-- Whether what a format writes for a value is read as the same data. -/
def restores (format : Format) (v : Value) : Bool :=
  (format.write? v).all (fun text => (format.read? text).any (Value.sameAs v))

theorem keeps_of_restores {format : Format} {v : Value} (h : format.restores v = true) :
    format.Keeps v := by
  intro _ text hwrite
  rw [restores, hwrite, Option.all_some, Option.any_eq_true] at h
  obtain ⟨w, hread, hsame⟩ := h
  exact ⟨w, hread, Value.same_of_sameAs hsame⟩

/-- JSON can write every value, and TOML those of its data model that are tables. -/
theorem write?_isSome {format : Format} {v : Value} (h : format.Expresses v)
    (htable : format = .toml → ∃ fields, v = .object fields) :
    ∃ text, format.write? v = some text := by
  cases format with
  | json => exact ⟨_, rfl⟩
  | toml =>
      obtain ⟨fields, rfl⟩ := htable rfl
      have hwritable : Toml.haveWritable fields = true := Toml.isWritable_of_expresses h
      exact ⟨_, if_pos hwritable⟩

end Format

end Document

end SignalChain
