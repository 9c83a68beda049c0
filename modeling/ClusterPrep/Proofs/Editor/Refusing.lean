import ClusterPrep.Proofs.Editor.Previews
import ClusterPrep.Proofs.Editor.Reloading
import ClusterPrep.Proofs.Hpl.Slots
import ClusterPrep.Proofs.Preset.Name

set_option autoImplicit false

/-
  What is refused or cancelled. Nothing is changed by it but a status line or the hint in the dialog
  for a name, and a dialog that is cancelled is closed.
-/
namespace ClusterPrep.Editor

/-! ### Answers of dialogs -/

/-- What is done with a text that is to be imported, if there is one. -/
def onImported : Option Text → Step Unit
  | none => return
  | some content => importText content

/-- What is done with the name of a preset that was chosen, if one was. -/
def onChosen : Option Text → Step Unit
  | none => return
  | some name => do if !name.isEmpty then loadPreset name

/-- What is done with a name under which the form is to be saved, if there is one. -/
def onNamed : Option Text → Step Unit
  | none => return
  | some name => do if !name.isEmpty then savePreset name

/-- The dialogs are closed with an answer, none if they are cancelled, and it is handed on. -/
theorem onDialogPress_importText (content : Text) :
    onDialogPress (.importText content) .acceptImport =
        (do closeDialog; onImported (some content)) ∧
      onDialogPress (.importText content) .cancelImport = (do closeDialog; onImported none) :=
  ⟨rfl, rfl⟩

theorem onDialogPress_loadPreset (table : PresetTable) (name : Text) :
    closeAndLoad name = (do closeDialog; onChosen (some name)) ∧
      onDialogPress (.loadPreset table) .cancelLoad = (do closeDialog; onChosen none) :=
  ⟨rfl, rfl⟩

theorem onDialogPress_savePreset {name : Value} {entered checked : Text} (hint : Hint)
    (text : name.asText = .ok entered) (good : Preset.checkName entered = .ok checked) :
    onDialogPress (.savePreset name hint) .acceptSave =
        (do closeDialog; onNamed (some checked)) ∧
      onDialogPress (.savePreset name hint) .cancelSave = (do closeDialog; onNamed none) := by
  refine ⟨?_, rfl⟩
  have filled : (!checked.isEmpty) = true := by
    simpa using Preset.ne_nil_of_checkName good
  rw [onDialogPress, submitName, text, Step.ofAttempt, pure_bind, good, onNamed, if_pos filled]

/-! ### Steps after which nothing follows -/

/-- Where nothing was noted before, nothing follows on a step that notes nothing. -/
theorem Session.take_of_unnoted {s t : Session} {step : Step Unit}
    (ran : step.run s = .ok ⟨⟩ t) (unnoted : t.changes = []) : s.take step = (.ok ⟨⟩, t) := by
  have settled : settle.run t = .ok ⟨⟩ t := by
    have same : { t with changes := [] } = t := by rw [← unnoted]
    rw [settle, Step.run_bind_of_ok (Step.run_get t)]
    dsimp only
    rw [unnoted, Step.run_bind_of_ok (Step.run_modify _ t), same]
    rfl
  rw [Session.take, Step.run_bind_of_ok ran, Step.run_bind_of_ok settled]
  rfl

theorem Session.take_of_failed {s t : Session} {step : Step Unit} {e : Failure}
    (ran : step.run s = .error e t) : s.take step = (.error e, { t with changes := [] }) := by
  rw [Session.take, Step.run_bind_of_error ran]

/-- Between the steps of a run no edit is noted, also where one fails. -/
theorem changes_take (s : Session) (step : Step Unit) : (s.take step).2.changes = [] := by
  rcases taken : s.take step with ⟨result, t⟩
  cases result with
  | ok a =>
      obtain ⟨u, -, settled⟩ := Session.take_of_ok taken
      exact leads_settle_unnoted.run u trivial _ t settled
  | error e =>
      rw [Session.take] at taken
      split at taken
      · cases taken
      · cases taken
        rfl

theorem Visited.changes {first : Settings} {s : Session} (visited : Visited first s) :
    s.changes = [] := by
  cases visited with
  | @start blank _ around script opened began =>
      have unnoted := changes_take (blank.within around) (firstRefresh script)
      rwa [began] at unnoted
  | next action visited => exact changes_take _ _

/-! ### What is refused -/

/-- The button that leaves a dialog as if nothing had been done in it. -/
def Dialog.cancelButton : Dialog → Widget
  | .help .. => .closeHelp
  | .importText _ => .cancelImport
  | .savePreset .. => .cancelSave
  | .loadPreset _ => .cancelLoad
  | .confirm _ => .decline

/-- The name of the command that does. -/
def Dialog.cancelCommand : Dialog → Text
  | .help .. => "close"
  | _ => "cancel"

/-- The events that cancel a dialog on top. -/
inductive Cancels (d : Dialog) : Event → Prop
  | pressed : Cancels d (.press d.cancelButton.name)
  | called : Cancels d (.call d.cancelCommand [])

/-- The events that submit the name in the dialog for one. -/
inductive SubmitsName : Event → Prop
  | pressed : SubmitsName (.press "btn-save")
  | entered : SubmitsName (.submit "save-input")

/-- The events that load a script. -/
inductive LoadsScript (s : Session) : Event → Prop
  | pressed (clear : s.dialogs = []) : LoadsScript s (.press "btn-load-pbs")
  | called (clear : s.dialogs = []) : LoadsScript s (.call "load_file" [])

/-- What is refused or cancelled in a session, with its result and the dialogs that are left. -/
inductive Refused (s : Session) : Step Unit → Except Failure Unit → List Dialog → Prop
  | importNothing : Refused s (onImported none) (.ok ⟨⟩) s.dialogs
  | importShort {content : Text} (few : (Hpl.usableLines content).length < 3) :
      Refused s (onImported (some content)) (.ok ⟨⟩) s.dialogs
  | loadNothing : Refused s (onChosen none) (.ok ⟨⟩) s.dialogs
  | loadMissing {name : Text} {notices : List Notice}
      (missing : s.presets.load name s.nesting = .ok (none, notices)) :
      Refused s (onChosen (some name)) (.ok ⟨⟩) s.dialogs
  | saveNothing : Refused s (onNamed none) (.ok ⟨⟩) s.dialogs
  | saveUnnamed : Refused s (onNamed (some [])) (.ok ⟨⟩) s.dialogs
  | saveIllegible {name : Text} {e : Failure} (named : name ≠ [])
      (illegible : s.builder.form.config = .error e) (bad : e.kind = .badValue) :
      Refused s (onNamed (some name)) (.ok ⟨⟩) s.dialogs
  /-- A line of the form holds no text at all. -/
  | saveUnread {name : Text} {e : Failure} (named : name ≠ [])
      (illegible : s.builder.form.config = .error e) (other : e.kind ≠ .badValue) :
      Refused s (onNamed (some name)) (.error e) s.dialogs
  | submitBad {event : Event} {name : Value} {hint : Hint} {below : List Dialog} {entered : Text}
      {e : Failure} (submits : SubmitsName event) (top : s.dialogs = .savePreset name hint :: below)
      (text : name.asText = .ok entered) (bad : Preset.checkName entered = .error e) :
      Refused s (perform event) (.ok ⟨⟩) s.dialogs
  | scriptUnnamed {event : Event} {raw : Text} (loads : LoadsScript s event)
      (typed : s.converter.path.asText = .ok raw) (empty : Text.strip raw = []) :
      Refused s (perform event) (.ok ⟨⟩) s.dialogs
  | scriptUnreadable {event : Event} {raw : Text} {path : Files.Path} {e : FileError}
      (loads : LoadsScript s event) (typed : s.converter.path.asText = .ok raw)
      (named : Text.strip raw ≠ [])
      (expanded : (Files.Path.ofText (Text.strip raw)).expanded s.homes = .ok path)
      (fit : Files.pathFailure? path.text = none)
      (unreadable : s.files.readBytes path = .error e) :
      Refused s (perform event) (.ok ⟨⟩) s.dialogs
  | cancel {event : Event} {d : Dialog} {below : List Dialog} (cancels : Cancels d event)
      (top : s.dialogs = d :: below) : Refused s (perform event) (.ok ⟨⟩) below

/-! ### What is left -/

/-- A dialog without the hint in it. -/
def Dialog.unhinted : Dialog → Dialog
  | .savePreset name _ => .savePreset name {}
  | d => d

/-- The session without its status lines and hints. -/
def Session.untold (s : Session) : Session :=
  { s with
    converter := { s.converter with status := [] }
    builder := { s.builder with status := [] }
    dialogs := s.dialogs.map .unhinted }

section

variable {s : Session} {event : Event}

/-! ### Refusals one by one -/

theorem run_importText_of_few {content : Text} (few : (Hpl.usableLines content).length < 3) :
    (importText content).run s = .ok ⟨⟩ (s.onBuilder
      (·.reporting (warning "Not an HPL.dat file (need at least 3 non-blank lines)"))) := by
  rw [importText, Hpl.read_eq_ok_iff.mpr (.inl ⟨few, rfl⟩),
    Step.run_bind_of_ok (Step.run_ofAttempt_ok s none)]
  rfl

theorem run_loadPreset_of_missing {name : Text} {notices : List Notice}
    (missing : s.presets.load name s.nesting = .ok (none, notices)) :
    (loadPreset name).run s = .ok ⟨⟩ (s.onBuilder
      (·.reporting (warning ("Preset '" ++ name ++ "' could not be loaded")))) := by
  rw [loadPreset, Step.run_bind_of_ok (Step.run_get s), missing,
    Step.run_bind_of_ok (Step.run_ofAttempt_ok s _)]
  rfl

theorem run_savePreset_of_bad {e : Failure} (illegible : s.builder.form.config = .error e)
    (bad : e.kind = .badValue) (name : Text) :
    (savePreset name).run s = .ok ⟨⟩ (s.onBuilder (·.reporting (warning e.message))) := by
  have told := Step.run_orElse_of_bad (α := Preset.Store × Text) s bad reportInBuilder
    (run_reportInBuilder e s)
  rw [savePreset, Step.run_bind_of_ok (Step.run_get s), illegible]
  exact Step.run_bind_of_ok told

theorem run_savePreset_of_other {e : Failure} (illegible : s.builder.form.config = .error e)
    (other : e.kind ≠ .badValue) (name : Text) : (savePreset name).run s = .error e s := by
  have failed := Step.run_orElse_of_other (α := Preset.Store × Text) s other reportInBuilder
  rw [savePreset, Step.run_bind_of_ok (Step.run_get s), illegible]
  exact Step.run_bind_of_error failed

theorem run_perform_of_submits {name : Value} {hint : Hint} {below : List Dialog}
    (submits : SubmitsName event) (top : s.dialogs = .savePreset name hint :: below) :
    (perform event).run s = (submitName name).run s := by
  cases submits with
  | pressed =>
      have found : s.reachable.find? (·.name == Text.ofString "btn-save") = some .acceptSave := by
        rw [Session.reachable, top]
        rfl
      rw [perform, Step.run_bind_of_ok (run_find found), Step.run_bind_of_ok (Step.run_get s), top]
      rfl
  | entered =>
      have found : s.reachable.find? (·.name == Text.ofString "save-input") =
          some .presetName := by
        rw [Session.reachable, top]
        rfl
      rw [perform, Step.run_bind_of_ok (run_find found), Step.run_bind_of_ok (Step.run_get s), top]

theorem run_submitName_of_bad {name : Value} {entered : Text} {e : Failure}
    (text : name.asText = .ok entered) (bad : Preset.checkName entered = .error e) :
    (submitName name).run s = .ok ⟨⟩
      { s with
        dialogs := .savePreset name ⟨Display.visible e.message, true⟩ :: s.dialogs.tail } := by
  rw [submitName, text, Step.run_bind_of_ok (Step.run_ofAttempt_ok s entered), bad]
  rfl

theorem run_perform_of_loads (loads : LoadsScript s event) :
    (perform event).run s = loadScript.run s := by
  cases loads with
  | pressed clear =>
      have found : s.reachable.find? (·.name == Text.ofString "btn-load-pbs") =
          some .loadScript := by
        rw [Session.reachable, clear]
        decide
      rw [perform, Step.run_bind_of_ok (run_find found), Step.run_bind_of_ok (Step.run_get s),
        clear]
      rfl
  | called clear =>
      rw [perform, callCommand, Step.run_bind_of_ok (Step.run_get s), clear]
      rfl

theorem run_loadScript_of_unnamed {raw : Text} (typed : s.converter.path.asText = .ok raw)
    (empty : Text.strip raw = []) : loadScript.run s = .ok ⟨⟩ (s.onConverter fun p =>
      { p with status := statusText (warning "Enter a script path first") }) := by
  rw [loadScript, Step.run_bind_of_ok (Step.run_get s), typed,
    Step.run_bind_of_ok (Step.run_ofAttempt_ok s raw), empty]
  rfl

theorem run_loadScript_of_unreadable {raw : Text} {path : Files.Path} {e : FileError}
    (typed : s.converter.path.asText = .ok raw) (named : Text.strip raw ≠ [])
    (expanded : (Files.Path.ofText (Text.strip raw)).expanded s.homes = .ok path)
    (fit : Files.pathFailure? path.text = none) (unreadable : s.files.readBytes path = .error e) :
    loadScript.run s = .ok ⟨⟩ (s.onConverter fun p =>
      { p with
        status :=
          statusText (warning ("Could not read " ++ path.text ++ ": " ++ e.message)) }) := by
  rw [loadScript, Step.run_bind_of_ok (Step.run_get s), typed,
    Step.run_bind_of_ok (Step.run_ofAttempt_ok s raw)]
  dsimp only
  rw [if_neg (by rwa [List.isEmpty_iff]), expanded,
    Step.run_bind_of_ok (Step.run_ofAttempt_ok s path), fit, unreadable]
  rfl

theorem run_perform_of_cancels {d : Dialog} {below : List Dialog} (cancels : Cancels d event)
    (top : s.dialogs = d :: below) :
    (perform event).run s = .ok ⟨⟩ { s with dialogs := below } := by
  have closed : closeDialog.run s = .ok ⟨⟩ { s with dialogs := below } := by
    rw [closeDialog, Step.run_modify, top]
    rfl
  cases cancels with
  | pressed =>
      have found : s.reachable.find? (·.name == d.cancelButton.name) = some d.cancelButton := by
        rw [Session.reachable, top]
        cases d <;> rfl
      rw [perform, Step.run_bind_of_ok (run_find found), Step.run_bind_of_ok (Step.run_get s), top,
        ← closed]
      cases d <;> rfl
  | called =>
      rw [perform, callCommand, Step.run_bind_of_ok (Step.run_get s), top, ← closed]
      cases d <;> rfl

end

/-! ### Nothing is changed -/

section

variable {first : Settings} {s : Session} {step : Step Unit} {result : Except Failure Unit}
  {left : List Dialog}

/-- A refused step tells something or closes a dialog. -/
theorem Refused.exists_run (refused : Refused s step result left) :
    (∃ t, result = .ok ⟨⟩ ∧ step.run s = .ok ⟨⟩ t ∧ t.untold = { s with dialogs := left }.untold) ∨
      left = s.dialogs ∧ ∃ e, result = .error e ∧ step.run s = .error e s := by
  cases refused with
  | importNothing | loadNothing | saveNothing | saveUnnamed => exact .inl ⟨s, rfl, rfl, rfl⟩
  | importShort few => exact .inl ⟨_, rfl, run_importText_of_few few, rfl⟩
  | @loadMissing name notices missing =>
      rw [onChosen]
      split
      · exact .inl ⟨_, rfl, run_loadPreset_of_missing missing, rfl⟩
      · exact .inl ⟨s, rfl, rfl, rfl⟩
  | @saveIllegible name e named illegible bad =>
      rw [onNamed, if_pos (by simpa using named)]
      exact .inl ⟨_, rfl, run_savePreset_of_bad illegible bad name, rfl⟩
  | @saveUnread name e named illegible other =>
      rw [onNamed, if_pos (by simpa using named)]
      exact .inr ⟨rfl, e, rfl, run_savePreset_of_other illegible other name⟩
  | submitBad submits top text bad =>
      have ran := run_submitName_of_bad (s := s) text bad
      rw [← run_perform_of_submits submits top] at ran
      refine .inl ⟨_, rfl, ran, ?_⟩
      rw [top]
      rfl
  | scriptUnnamed loads typed empty =>
      have ran := run_loadScript_of_unnamed typed empty
      rw [← run_perform_of_loads loads] at ran
      exact .inl ⟨_, rfl, ran, rfl⟩
  | scriptUnreadable loads typed named expanded fit unreadable =>
      have ran := run_loadScript_of_unreadable typed named expanded fit unreadable
      rw [← run_perform_of_loads loads] at ran
      exact .inl ⟨_, rfl, ran, rfl⟩
  | cancel cancels top => exact .inl ⟨_, rfl, run_perform_of_cancels cancels top, rfl⟩

/-- **Nothing is changed by what is refused.** In whatever session of a run something is refused or
    cancelled, all but status lines and hints is afterwards what it was, and of the dialogs the one
    that was cancelled is closed. -/
theorem take_refused (visited : Visited first s) (refused : Refused s step result left) :
    ∃ t, s.take step = (result, t) ∧ t.untold = { s with dialogs := left }.untold := by
  have unnoted := visited.changes
  rcases refused.exists_run with ⟨t, rfl, ran, same⟩ | ⟨rfl, e, rfl, ran⟩
  · have kept : t.untold.changes = s.changes := by rw [same]; rfl
    exact ⟨t, Session.take_of_unnoted ran (kept.trans unnoted), same⟩
  · refine ⟨_, Session.take_of_failed ran, ?_⟩
    rw [← unnoted]

end

/-- Letters for the problem sizes keep the form from being saved. -/
theorem take_refused_withLetters :
    Refused withLetters (onNamed (some "mine")) (.ok ⟨⟩) withLetters.dialogs ∧
      ∃ t, withLetters.take (onNamed (some "mine")) = (.ok ⟨⟩, t) ∧
        t.untold = { withLetters with dialogs := withLetters.dialogs }.untold := by
  have visited : Visited {} withLetters :=
    visited_plainStart.next (.event (.enter "hpl-ns" (.text "abc")))
  have refused : Refused withLetters (onNamed (some "mine")) (.ok ⟨⟩) withLetters.dialogs := by
    have failed : (match withLetters.builder.form.config with
        | .ok _ => none
        | .error e => some e.kind) = some .badValue := by decide +kernel
    cases illegible : withLetters.builder.form.config with
    | ok c =>
        rw [illegible] at failed
        cases failed
    | error e =>
        rw [illegible] at failed
        exact .saveIllegible (by decide) illegible (Option.some.inj failed)
  exact ⟨refused, take_refused visited refused⟩

end ClusterPrep.Editor
