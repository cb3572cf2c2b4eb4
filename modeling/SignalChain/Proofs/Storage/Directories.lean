import SignalChain.Proofs.Table
import SignalChain.Storage.Tree

/-!
# What making directories does to a tree

Making a directory, with those above it, only ever adds directories where
nothing was.  A path that led somewhere leads to the same place afterwards, and
when no error is reported the path that was asked for leads to a directory.
-/

namespace SignalChain

namespace Storage

namespace FileTree

variable {t t' u : FileTree} {path : String}

theorem entry?_set {place : List String} (h : place ≠ []) (e : Entry) (other : List String) :
    FileTree.entry? (t.set place e) other = if other = place then some e else t.entry? other := by
  cases other with
  | nil => simp [FileTree.entry?, h.symm]
  | cons name names => simp [FileTree.entry?, set]

theorem ne_nil_of_entry?_eq_none {place : List String} (h : t.entry? place = none) :
    place ≠ [] := by
  rintro rfl
  cases h

/-! ## Trees with more directories -/

/-- All entries of a tree are in the other as they were, and the others there are directories. -/
structure GainsDirectories (t t' : FileTree) : Prop where
  home : t'.home = t.home
  kept : ∀ {place e}, t.entry? place = some e → t'.entry? place = some e
  gained : ∀ {place e}, t'.entry? place = some e → t.entry? place = none → e = .directory

namespace GainsDirectories

theorem refl (t : FileTree) : t.GainsDirectories t where
  home := rfl
  kept h := h
  gained h hnone := by
    rw [h] at hnone
    contradiction

theorem trans (h : t.GainsDirectories t') (h' : t'.GainsDirectories u) :
    t.GainsDirectories u where
  home := h'.home.trans h.home
  kept he := h'.kept (h.kept he)
  gained {place e} he hnone := by
    cases hbetween : t'.entry? place with
    | none => exact h'.gained he hbetween
    | some e' =>
        have hsame : e' = e := Option.some.inj ((h'.kept hbetween).symm.trans he)
        exact hsame ▸ h.gained hbetween hnone

theorem of_set {place : List String} (h : t.entry? place = none) :
    t.GainsDirectories (t.set place .directory) := by
  have hplace := ne_nil_of_entry?_eq_none h
  refine ⟨rfl, ?_, ?_⟩
  · intro other e he
    rw [entry?_set hplace, if_neg, he]
    rintro rfl
    rw [h] at he
    contradiction
  · intro other e he hnone
    rw [entry?_set hplace] at he
    split at he
    · exact (Option.some.inj he).symm
    · rw [hnone] at he
      contradiction

theorem walk_eq_ok (h : t.GainsDirectories t') {place found : List String} {steps : List String}
    (hwalk : t.walk place steps = .ok found) : t'.walk place steps = .ok found := by
  fun_induction walk t place steps with
  | case1 place => exact hwalk
  | case2 => contradiction
  | case3 => contradiction
  | case4 place steps he ih => simpa [walk, h.kept he] using ih hwalk
  | case5 => contradiction
  | case6 place steps he hstay hbelow ih =>
      simpa only [walk, h.kept he, if_neg hstay, if_true, if_neg hbelow] using ih hwalk
  | case7 => contradiction
  | case8 place step steps he hstay hup hfits ih =>
      simpa [walk, h.kept he, hstay, hup, hfits] using ih hwalk

/-- What can be followed in a tree can be followed, to the same place, with more directories. -/
theorem locate_eq_ok (h : t.GainsDirectories t') {place : List String}
    (hlocate : t.locate path = .ok place) : t'.locate path = .ok place := by
  have hrelative : t'.relative? path = t.relative? path := by
    unfold relative?
    rw [h.home]
  unfold locate at hlocate ⊢
  rw [hrelative]
  split_ifs at hlocate ⊢
  cases hsteps : t.relative? path with
  | none => simp [hsteps] at hlocate
  | some steps =>
      simp only [hsteps] at hlocate ⊢
      exact h.walk_eq_ok hlocate

end GainsDirectories

theorem isDirectory_iff :
    t.isDirectory path = true ↔
      ∃ place, t.locate path = .ok place ∧ t.entry? place = some .directory := by
  unfold isDirectory find
  cases hlocate : t.locate path with
  | error e => simp [bind, Except.bind]
  | ok place =>
      simp only [bind, Except.bind]
      cases he : t.entry? place with
      | none => simp [he]
      | some e =>
          cases e with
          | file text => cases Path.endsInSlash path <;> simp [he]
          | directory => simp [he]

theorem isPresent_iff :
    t.isPresent path = true ↔
      ∃ place e, t.locate path = .ok place ∧ t.entry? place = some e ∧
        (e = .directory ∨ Path.endsInSlash path = false) := by
  unfold isPresent find
  cases hlocate : t.locate path with
  | error e => simp [bind, Except.bind, Except.toBool]
  | ok place =>
      simp only [bind, Except.bind]
      cases he : t.entry? place with
      | none => simp [he, Except.toBool]
      | some e =>
          cases e with
          | file text => cases Path.endsInSlash path <;> simp [he, Except.toBool]
          | directory => simp [he, Except.toBool]

theorem isPresent_of_isDirectory (h : t.isDirectory path = true) : t.isPresent path = true := by
  obtain ⟨place, hlocate, he⟩ := isDirectory_iff.1 h
  exact isPresent_iff.2 ⟨place, .directory, hlocate, he, Or.inl rfl⟩

theorem GainsDirectories.isPresent (h : t.GainsDirectories t')
    (hpresent : t.isPresent path = true) : t'.isPresent path = true := by
  obtain ⟨place, e, hlocate, he, hkind⟩ := isPresent_iff.1 hpresent
  exact isPresent_iff.2 ⟨place, e, h.locate_eq_ok hlocate, h.kept he, hkind⟩

/-! ## One directory -/

theorem makeDirectory_eq_ok_iff :
    t.makeDirectory path = .ok t' ↔
      ∃ place, t.locate path = .ok place ∧ t.entry? place = none ∧
        t' = t.set place .directory := by
  unfold makeDirectory
  cases hlocate : t.locate path with
  | error e => simp [bind, Except.bind]
  | ok place =>
      simp only [bind, Except.bind]
      cases he : t.entry? place with
      | none => simp [he, eq_comm]
      | some e => simp [he]

theorem gains_of_makeDirectory (h : t.makeDirectory path = .ok t') :
    t.GainsDirectories t' ∧ t'.isDirectory path = true := by
  obtain ⟨place, hlocate, hnone, rfl⟩ := makeDirectory_eq_ok_iff.1 h
  have hgains := GainsDirectories.of_set hnone
  refine ⟨hgains, isDirectory_iff.2 ⟨place, hgains.locate_eq_ok hlocate, ?_⟩⟩
  rw [entry?_set (ne_nil_of_entry?_eq_none hnone), if_pos rfl]

/-- The outcome of making a directory that may be there already. -/
def madeOrFound (t : FileTree) (path : String) : Except FileError Unit × FileTree :=
  match t.makeDirectory path with
  | .ok t' => (.ok (), t')
  | .error e => (if t.isDirectory path then .ok () else .error e, t)

theorem gains_madeOrFound (t : FileTree) (path : String) :
    t.GainsDirectories (t.madeOrFound path).2 := by
  unfold madeOrFound
  cases h : t.makeDirectory path with
  | ok t' => exact (gains_of_makeDirectory h).1
  | error e => exact .refl t

theorem isDirectory_madeOrFound (h : (t.madeOrFound path).1 = .ok ()) :
    (t.madeOrFound path).2.isDirectory path = true := by
  unfold madeOrFound at h ⊢
  cases hmake : t.makeDirectory path with
  | ok t' => exact (gains_of_makeDirectory hmake).2
  | error e =>
      simp only [hmake] at h ⊢
      split at h
      · assumption
      · contradiction

/-! ## Running on a tree -/

theorem bind_apply {α β : Type} (action : StateM FileTree α) (next : α → StateM FileTree β)
    (t : FileTree) : (action >>= next) t = next (action t).1 (action t).2 :=
  rfl

theorem makeDirectory_apply (t : FileTree) (path : String) :
    (FileStore.makeDirectory path : StateM FileTree (Except FileError Unit)) t =
      match t.makeDirectory path with
      | .ok t' => (.ok (), t')
      | .error e => (.error e, t) :=
  rfl

theorem settleDirectory_error_apply (t : FileTree) (path : String) (e : FileError) :
    (settleDirectory path (.error e) : StateM FileTree (Except FileError Unit)) t =
      (if t.isDirectory path then .ok () else .error e, t) := by
  show (if t.isDirectory path then pure (Except.ok ()) else pure (Except.error e) :
    StateM FileTree (Except FileError Unit)) t = _
  cases t.isDirectory path <;> rfl

theorem settle_makeDirectory_apply (t : FileTree) (path : String) :
    (FileStore.makeDirectory path >>= settleDirectory path :
      StateM FileTree (Except FileError Unit)) t = t.madeOrFound path := by
  rw [bind_apply, makeDirectory_apply, madeOrFound]
  cases t.makeDirectory path with
  | ok t' => rfl
  | error e => exact settleDirectory_error_apply t path e

/-! ## A directory and those above it -/

/-- The outcome of making a directory and those above it. -/
def madeWithin (fuel : Nat) (path : String) (t : FileTree) : Except FileError Unit × FileTree :=
  (makeDirectoriesWithin fuel path : StateM FileTree (Except FileError Unit)) t

/--
There is nothing to make, or the directory is made at once or after those above
it, or those above it could not be made.
-/
theorem madeWithin_succ_cases (fuel : Nat) (path : String) (t : FileTree) :
    (path.isEmpty = true ∧ madeWithin (fuel + 1) path t = (.ok (), t)) ∨
      madeWithin (fuel + 1) path t = t.madeOrFound path ∨
      (∃ above, madeWithin fuel (Path.parent path) t = (.ok (), above) ∧
        madeWithin (fuel + 1) path t = above.madeOrFound path) ∨
      ∃ e above, madeWithin fuel (Path.parent path) t = (.error e, above) ∧
        madeWithin (fuel + 1) path t = (.error e, above) := by
  unfold madeWithin
  rw [makeDirectoriesWithin]
  cases hempty : path.isEmpty with
  | true => exact Or.inl ⟨rfl, rfl⟩
  | false =>
      right
      simp only [Bool.false_eq_true, if_false]
      rw [bind_apply, makeDirectory_apply, madeOrFound]
      cases t.makeDirectory path with
      | ok t' => exact Or.inl rfl
      | error e =>
          cases e with
          | notFound =>
              right
              simp only
              rw [bind_apply]
              cases habove : (makeDirectoriesWithin fuel (Path.parent path) :
                  StateM FileTree (Except FileError Unit)) t with
              | mk result above =>
                  cases result with
                  | ok u =>
                      exact Or.inl ⟨above, rfl, settle_makeDirectory_apply above path⟩
                  | error e => exact Or.inr ⟨e, above, rfl, rfl⟩
          | _ => exact Or.inl (settleDirectory_error_apply t path _)

theorem gains_madeWithin (fuel : Nat) (path : String) (t : FileTree) :
    t.GainsDirectories (madeWithin fuel path t).2 := by
  induction fuel generalizing path with
  | zero => exact .refl t
  | succ fuel ih =>
      rcases madeWithin_succ_cases fuel path t with
        ⟨-, hmade⟩ | hmade | ⟨above, habove, hmade⟩ | ⟨e, above, habove, hmade⟩
      · rw [hmade]
        exact .refl t
      · rw [hmade]
        exact t.gains_madeOrFound path
      · have hgains := ih (Path.parent path)
        rw [habove] at hgains
        rw [hmade]
        exact hgains.trans (above.gains_madeOrFound path)
      · have hgains := ih (Path.parent path)
        rwa [habove, ← hmade] at hgains

/-- Unless an error is reported, the path leads to a directory afterwards. -/
theorem isDirectory_madeWithin (fuel : Nat) (path : String) (t : FileTree)
    (hpath : path.isEmpty = false) (h : (madeWithin (fuel + 1) path t).1 = .ok ()) :
    (madeWithin (fuel + 1) path t).2.isDirectory path = true := by
  rcases madeWithin_succ_cases fuel path t with
    ⟨hempty, -⟩ | hmade | ⟨above, -, hmade⟩ | ⟨e, above, -, hmade⟩
  · rw [hempty] at hpath
    contradiction
  · rw [hmade] at h ⊢
    exact isDirectory_madeOrFound h
  · rw [hmade] at h ⊢
    exact isDirectory_madeOrFound h
  · rw [hmade] at h
    contradiction

end FileTree

end Storage

end SignalChain
