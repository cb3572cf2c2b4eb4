import SignalChain.Proofs.Storage.Directories
import SignalChain.Record.File

/-!
# Saving on a tree of files

A document is refused when the extension of its file stands for no format, or
when the format has no text for the record.  The extension is looked at before
anything is done, but the directory of the file is made before the text is
asked for.  So a refused document leaves the tree as it was, or with the
directory of its file and nothing else.
-/

namespace SignalChain

open Document Storage

/-- An error that lies in the name of the file or in the record, and not in the files. -/
inductive DocumentError.IsRefusal : DocumentError → Prop where
  | unsupportedFormat (path : String) : IsRefusal (.unsupportedFormat path)
  | unwritable (format : Format) : IsRefusal (.unwritable format)

theorem DocumentError.IsRefusal.cause?_eq_none {e : DocumentError} (h : e.IsRefusal) :
    e.cause? = none := by
  cases h <;> rfl

/-! ## Work with documents -/

namespace Storage.FileTree

variable {α β : Type}

/-- What work with documents comes to, and the tree after it. -/
def outcome (t : FileTree) (work : ExceptT DocumentError (StateM FileTree) α) :
    Except DocumentError α × FileTree :=
  work.run.run t

theorem outcome_bind (t : FileTree) (work : ExceptT DocumentError (StateM FileTree) α)
    (next : α → ExceptT DocumentError (StateM FileTree) β) :
    t.outcome (work >>= next) =
      match t.outcome work with
      | (.ok a, t') => t'.outcome (next a)
      | (.error e, t') => (.error e, t') := by
  unfold outcome
  rw [ExceptT.run_bind, StateT.run_bind]
  rcases work.run.run t with ⟨e | a, t'⟩ <;> rfl

theorem outcome_except (t : FileTree) (result : Except DocumentError α) :
    t.outcome (liftM result) = (result, t) := by
  cases result <;> rfl

theorem outcome_lift (t : FileTree) (action : StateM FileTree α) :
    t.outcome (liftM action) = (.ok (action t).1, (action t).2) :=
  rfl

end Storage.FileTree

namespace Record

open FileTree

variable {t t' : FileTree} {path : String}

/-! ## Asking for a directory -/

theorem outcome_ensureDirectory_of_isPresent (h : t.isPresent path = true) :
    t.outcome (ensureDirectory path) = (.ok (), t) := by
  rw [ensureDirectory, outcome_bind, outcome_lift]
  show t.outcome (if t.isPresent path = true then pure () else _) = _
  rw [if_pos h]
  rfl

theorem outcome_ensureDirectory_of_not_isPresent (h : t.isPresent path = false) :
    t.outcome (ensureDirectory path) =
      match madeWithin ((Path.steps path).length + 1) path t with
      | (.ok (), t') => (.ok (), t')
      | (.error cause, t') => (.error (.cannotMake path cause), t') := by
  rw [ensureDirectory, outcome_bind, outcome_lift]
  show t.outcome (if t.isPresent path = true then pure () else _) = _
  have hmade : makeDirectories (m := StateM FileTree) path t =
      madeWithin ((Path.steps path).length + 1) path t := rfl
  rw [h, if_neg Bool.false_ne_true, outcome_bind, outcome_lift, hmade]
  rcases madeWithin ((Path.steps path).length + 1) path t with ⟨cause | u, made⟩ <;> rfl

/-- What it means that a tree comes of asking for a directory. -/
structure Ensures (t : FileTree) (path : String) (result : Except DocumentError Unit)
    (t' : FileTree) : Prop where
  gains : t.GainsDirectories t'
  failed : ∀ e, result = .error e → e.cause?.isSome
  kept : t.isPresent path = true → t' = t
  isPresent : result = .ok () → path.isEmpty = false → t'.isPresent path = true

theorem ensures_of_outcome {result : Except DocumentError Unit}
    (h : t.outcome (ensureDirectory path) = (result, t')) : Ensures t path result t' := by
  cases hpresent : t.isPresent path with
  | true =>
      rw [outcome_ensureDirectory_of_isPresent hpresent] at h
      cases h
      exact ⟨.refl t, nofun, fun _ => rfl, fun _ _ => hpresent⟩
  | false =>
      have habsent : t.isPresent path = true → t' = t := fun h => by
        rw [hpresent] at h
        contradiction
      have hgains := gains_madeWithin ((Path.steps path).length + 1) path t
      have hmade := isDirectory_madeWithin (Path.steps path).length path t
      rw [outcome_ensureDirectory_of_not_isPresent hpresent] at h
      generalize madeWithin ((Path.steps path).length + 1) path t = made at h hgains hmade
      obtain ⟨made, after⟩ := made
      cases made with
      | error cause =>
          cases h
          refine ⟨hgains, ?_, habsent, nofun⟩
          rintro e ⟨⟩
          rfl
      | ok u =>
          cases h
          exact ⟨hgains, nofun, habsent, fun _ hpath => isPresent_of_isDirectory (hmade hpath rfl)⟩

/-- If in the end nothing has changed, the directory that was asked for was there. -/
theorem Ensures.isPresent_of_eq {u : FileTree} (h : Ensures t path (.ok ()) t')
    (hpath : path.isEmpty = false) (hlater : t'.GainsDirectories u) (heq : u = t) :
    t.isPresent path = true := by
  rw [← heq]
  exact hlater.isPresent (h.isPresent rfl hpath)

/-! ## Refused documents -/

/-- The directory of a file is there, or the path names none. -/
def HoldsParent (t : FileTree) (path : String) : Prop :=
  (Path.parent path).isEmpty = true ∨ t.isPresent (Path.parent path) = true

theorem ensures_parent {result : Except DocumentError Unit}
    (h : t.outcome (ensureParent path) = (result, t')) :
    t.GainsDirectories t' ∧ (∀ e, result = .error e → e.cause?.isSome) ∧
      (result = .ok () → (t' = t ↔ HoldsParent t path)) := by
  unfold ensureParent at h
  unfold HoldsParent
  cases hempty : (Path.parent path).isEmpty with
  | true =>
      rw [hempty, if_pos rfl] at h
      cases h
      exact ⟨.refl t, nofun, fun _ => by simp⟩
  | false =>
      rw [hempty, if_neg Bool.false_ne_true] at h
      have hensures := ensures_of_outcome h
      refine ⟨hensures.gains, hensures.failed, fun hok => ?_⟩
      subst hok
      simp only [Bool.false_eq_true, false_or]
      exact ⟨hensures.isPresent_of_eq hempty (.refl t'), hensures.kept⟩

variable {α : Type} [Written α] {a : α} {e : DocumentError}

/-- The steps that come before an error which no failure of the files is behind. -/
theorem refused_cases (hcause : e.cause? = none) (h : t.outcome (save a path) = (.error e, t')) :
    (Format.ofPath? path = none ∧ e = .unsupportedFormat path ∧ t' = t) ∨
      ∃ format, Format.ofPath? path = some format ∧ write? format a = none ∧
        e = .unwritable format ∧ t.outcome (ensureParent path) = (.ok (), t') := by
  cases hformat : Format.ofPath? path with
  | none =>
      have hnone : formatOf path = .error (.unsupportedFormat path) := by rw [formatOf, hformat]
      rw [save, hnone, outcome_bind, outcome_except] at h
      cases h
      exact Or.inl ⟨rfl, rfl, rfl⟩
  | some format =>
      have hsome : formatOf path = .ok format := by rw [formatOf, hformat]
      refine Or.inr ⟨format, rfl, ?_⟩
      simp only [save, hsome, outcome_bind, outcome_except] at h
      rcases hparent : t.outcome (ensureParent path) with ⟨cause | u, made⟩
      · simp only [hparent] at h
        cases h
        have hsome := (ensures_parent hparent).2.1 e rfl
        rw [hcause] at hsome
        contradiction
      · simp only [hparent, render] at h
        cases htext : write? format a with
        | none =>
            simp only [htext] at h
            cases h
            exact ⟨rfl, rfl, rfl⟩
        | some text =>
            simp only [htext, outcome_lift] at h
            rcases hwritten : (FileStore.writeText path text :
              StateM FileTree (Except FileError Unit)) made with ⟨cause | u, written⟩
            · rw [hwritten] at h
              cases h
              contradiction
            · rw [hwritten] at h
              cases h

/-- A refused document leaves no more than the directory of its file, if that is missing. -/
theorem tree_of_refused (hcause : e.cause? = none)
    (h : t.outcome (save a path) = (.error e, t')) :
    t.GainsDirectories t' ∧
      (t' = t ↔ ((Format.ofPath? path).isSome → HoldsParent t path)) := by
  rcases refused_cases hcause h with ⟨hnone, -, rfl⟩ | ⟨format, hsome, -, -, hparent⟩
  · exact ⟨.refl t', by simp [hnone]⟩
  · obtain ⟨hgains, -, hiff⟩ := ensures_parent hparent
    exact ⟨hgains, by simpa [hsome] using hiff rfl⟩

end Record

end SignalChain
