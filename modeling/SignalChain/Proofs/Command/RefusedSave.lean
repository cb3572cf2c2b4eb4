import SignalChain.Command.Run
import SignalChain.Proofs.Record.Saving
import SignalChain.Proofs.Storage.Path

/-!
# What a refused save leaves behind

Writing the settings asks for the program's own directory first, if the file
lies in it, and then saves a document like any other.  A document that is
refused is written nowhere, and no file is touched.  What can be left behind are
the directories that were asked for before: that of the file, and with settings
that of the program.  The tree is as it was exactly when these were there.
-/

namespace SignalChain

open Document Storage Record

namespace Command

/-! ## Sessions on a tree -/

namespace Session

variable {α β : Type} (setting : Setting) (transcript : Transcript) (t : FileTree)

/-- What a session comes to, with its transcript and the tree after it. -/
def outcome (work : Session (StateM FileTree) α) : (Except Failure α × Transcript) × FileTree :=
  (((work.run setting).run).run transcript).run t

theorem outcome_bind (work : Session (StateM FileTree) α)
    (next : α → Session (StateM FileTree) β) :
    outcome setting transcript t (work >>= next) =
      match outcome setting transcript t work with
      | ((.ok a, transcript'), t') => outcome setting transcript' t' (next a)
      | ((.error f, transcript'), t') => ((.error f, transcript'), t') := by
  unfold outcome
  rw [ReaderT.run_bind, ExceptT.run_bind, StateT.run_bind, StateT.run_bind]
  rcases (((work.run setting).run).run transcript).run t with ⟨⟨f | a, transcript'⟩, t'⟩ <;> rfl

theorem outcome_lift (action : StateM FileTree α) :
    outcome setting transcript t (liftM action) = ((.ok (action t).1, transcript), (action t).2) :=
  rfl

theorem outcome_read :
    outcome setting transcript t read = ((.ok setting, transcript), t) :=
  rfl

theorem outcome_document (failure : DocumentError → Failure)
    (work : ExceptT DocumentError (StateM FileTree) α) :
    outcome setting transcript t (document failure work) =
      match t.outcome work with
      | (.ok a, t') => ((.ok a, transcript), t')
      | (.error e, t') => ((.error (failure e), transcript), t') := by
  have hrun : work.run t = t.outcome work := rfl
  rw [document, outcome_bind, outcome_lift, hrun]
  rcases t.outcome work with ⟨e | a, t'⟩ <;> rfl

end Session

/-! ## Writing the settings -/

/-- The work with documents that writing the settings is. -/
def storeSettings (configurations : String) (settings : Settings) (path : String) :
    ExceptT DocumentError (StateM FileTree) Unit := do
  if Path.isInside (Settings.directory configurations) path then
    ensureDirectory (Settings.directory configurations)
  save settings path

variable {setting : Setting} {force : Bool} {path : String} {t t' : FileTree}

/-- Unless the file is there and may not be overwritten, the settings are stored. -/
theorem outcome_initSettings (hfree : t.isPresent path = true → force = true)
    (settings : Settings) (transcript : Transcript) :
    Session.outcome setting transcript t (initSettings force settings path) =
      match t.outcome (storeSettings setting.configurations settings path) with
      | (.ok (), t') =>
          ((.ok (), { transcript with
            printed := ("Wrote " ++ path) :: transcript.printed }), t')
      | (.error e, t') => ((.error (Failure.ofDocument e), transcript), t') := by
  have hpass : (t.isPresent path && !force) = false := by
    cases hpresent : t.isPresent path <;> simp_all
  rw [initSettings, Session.outcome_bind, Session.outcome_lift]
  change Session.outcome setting transcript t (do
    if (t.isPresent path && !force) = true then
      throw (Failure.ofMessage (path ++ " already exists (use --force to overwrite)"))
    let directory := Settings.directory (← read).configurations
    if Path.isInside directory path then
      Session.document Failure.ofDocument (ensureDirectory directory)
    Session.document Failure.ofDocument (save settings path)
    Session.print ("Wrote " ++ path)) = _
  simp only [hpass, Bool.false_eq_true, if_false]
  rw [Session.outcome_bind, Session.outcome_read, storeSettings]
  cases hinside : Path.isInside (Settings.directory setting.configurations) path with
  | true =>
      simp only [hinside, if_true, Session.outcome_bind, Session.outcome_document,
        FileTree.outcome_bind]
      rcases t.outcome (ensureDirectory (Settings.directory setting.configurations)) with
        ⟨e | u, made⟩
      · rfl
      · simp only
        rcases made.outcome (save settings path) with ⟨e | u, t'⟩ <;> rfl
  | false =>
      simp only [hinside, Bool.false_eq_true, if_false, Session.outcome_bind,
        Session.outcome_document]
      rcases t.outcome (save settings path) with ⟨e | u, t'⟩ <;> rfl

theorem isName_directoryName : Path.IsName Settings.directoryName :=
  ⟨by decide, by decide, by decide⟩

theorem isName_fileName : Path.IsName Settings.fileName :=
  ⟨by decide, by decide, by decide⟩

theorem directory_isEmpty (configurations : String) :
    (Settings.directory configurations).isEmpty = false :=
  Path.join_isEmpty isName_directoryName configurations

/-- By default the settings lie in the directory of the program, wherever that is. -/
theorem isInside_defaultPath (configurations : String) :
    Path.isInside (Settings.directory configurations) (Settings.defaultPath configurations) =
      true :=
  Path.isInside_join isName_fileName (Settings.directory configurations)

/-- Refused settings leave no more than the two directories, if these are missing. -/
theorem tree_of_refused_settings {configurations : String} {settings : Settings}
    {e : DocumentError} (hcause : e.cause? = none)
    (h : t.outcome (storeSettings configurations settings path) = (.error e, t')) :
    t.GainsDirectories t' ∧
      (t' = t ↔
        (Path.isInside (Settings.directory configurations) path = true →
            t.isPresent (Settings.directory configurations) = true) ∧
          ((Format.ofPath? path).isSome → HoldsParent t path)) := by
  unfold storeSettings at h
  cases hinside : Path.isInside (Settings.directory configurations) path with
  | true =>
      simp only [hinside, if_true, FileTree.outcome_bind] at h
      rcases hmade : t.outcome (ensureDirectory (Settings.directory configurations)) with
        ⟨cause | u, made⟩
      · simp only [hmade] at h
        cases h
        have hsome := (ensures_of_outcome hmade).failed e rfl
        rw [hcause] at hsome
        contradiction
      · simp only [hmade] at h
        have hensures := ensures_of_outcome hmade
        obtain ⟨hgains, hiff⟩ := tree_of_refused hcause h
        refine ⟨hensures.gains.trans hgains, ?_⟩
        constructor
        · intro heq
          have hpresent := hensures.isPresent_of_eq (directory_isEmpty configurations) hgains heq
          rw [hensures.kept hpresent] at hiff
          exact ⟨fun _ => hpresent, hiff.1 heq⟩
        · rintro ⟨hdirectory, hparent⟩
          rw [hensures.kept (hdirectory rfl)] at hiff
          exact hiff.2 hparent
  | false =>
      simp only [hinside, Bool.false_eq_true, if_false] at h
      obtain ⟨hgains, hiff⟩ := tree_of_refused hcause h
      exact ⟨hgains, by simpa using hiff⟩

end Command

/-! ## Refused saves -/

open Command

/--
A refused save changes no file and removes nothing.  By itself it leaves the tree
as it was exactly if the extension is what was refused or the directory of the
file was there.  Refused settings leave it so exactly if also the directory of
the program was there, or was not asked for.
-/
theorem refused_save_exact {α : Type} [Written α] {path : String} {t t' : FileTree}
    {e : DocumentError} (he : e.IsRefusal) :
    (∀ a : α, t.outcome (save a path) = (.error e, t') →
      t.GainsDirectories t' ∧
        (t' = t ↔ ((Format.ofPath? path).isSome → HoldsParent t path))) ∧
    ∀ setting force settings before after, (t.isPresent path = true → force = true) →
      Session.outcome setting before t (initSettings force settings path) =
          ((.error (Failure.ofDocument e), after), t') →
        t.GainsDirectories t' ∧
          (t' = t ↔
            (Path.isInside (Settings.directory setting.configurations) path = true →
                t.isPresent (Settings.directory setting.configurations) = true) ∧
              ((Format.ofPath? path).isSome → HoldsParent t path)) := by
  refine ⟨fun a h => tree_of_refused he.cause?_eq_none h, ?_⟩
  intro setting force settings before after hfree h
  rw [outcome_initSettings hfree] at h
  rcases hstored : t.outcome (storeSettings setting.configurations settings path) with
    ⟨error | u, made⟩
  · simp only [hstored, Prod.mk.injEq, Except.error.injEq] at h
    obtain ⟨⟨hfailure, -⟩, rfl⟩ := h
    -- Failures keep the cause of the error, and only refusals have none.
    have hcause : error.cause? = none :=
      (congrArg Failure.cause hfailure).trans he.cause?_eq_none
    exact tree_of_refused_settings hcause hstored
  · simp [hstored] at h

/-- A rig whose hint gives a parameter no value, for which one of the formats has no text. -/
def voidParamRig : Rig Float :=
  { (Rig.new : Rig Float) with
    snapshots :=
      [(Snapshot.ofName "Lead").withHint
        ⟨[], Table.ofList [("Mix", ⟨.null, rfl⟩)], none, none⟩] }

/-- The rig is refused in a directory that is there, and nothing has changed. -/
theorem refused_save_exact_voidParam :
    let t := (FileTree.empty "/home").set ["d.json"] .directory
    (DocumentError.unwritable .toml).IsRefusal ∧
      t.outcome (save voidParamRig "d.json/rig.toml") = (.error (.unwritable .toml), t) ∧
      t.GainsDirectories t ∧ HoldsParent t "d.json/rig.toml" := by
  intro t
  have he : (DocumentError.unwritable .toml).IsRefusal := .unwritable .toml
  have hsave : t.outcome (save voidParamRig "d.json/rig.toml") =
      (.error (.unwritable .toml), t) := by decide +kernel
  obtain ⟨hgains, hiff⟩ := (refused_save_exact he).1 voidParamRig hsave
  exact ⟨he, hsave, hgains, hiff.1 rfl (by decide +kernel)⟩

/-- Without the directories, a refused rig and refused settings each leave theirs behind. -/
theorem refused_save_leaves_directory :
    let t := FileTree.empty "/home"
    t.outcome (save voidParamRig "d.json/rig.toml") =
        (.error (.unwritable .toml), t.set ["d.json"] .directory) ∧
      t.set ["d.json"] .directory ≠ t ∧
      Session.outcome ⟨"/home/.config", false⟩ .empty t
          (initSettings false Settings.default "/home/.config/rigscope/own.yaml") =
        ((.error (Failure.ofDocument (.unsupportedFormat "/home/.config/rigscope/own.yaml")),
            .empty),
          (t.set [".config"] .directory).set [".config", "rigscope"] .directory) := by
  intro t
  refine ⟨by decide +kernel, by decide +kernel, ?_⟩
  have hstored : t.outcome (storeSettings "/home/.config" Settings.default
      "/home/.config/rigscope/own.yaml") =
        (.error (.unsupportedFormat "/home/.config/rigscope/own.yaml"),
          (t.set [".config"] .directory).set [".config", "rigscope"] .directory) := by
    decide +kernel
  rw [outcome_initSettings (by decide +kernel), hstored]

end SignalChain
