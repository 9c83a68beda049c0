import ClusterPrep.Editor.View
import ClusterPrep.Proofs.Editor.Followed
import ClusterPrep.Proofs.Editor.Runs

set_option autoImplicit false

/-
  Over every run of the editor the previews follow the edits: whatever the user does and in whatever
  order, a panel shows what was entered in it, or a timer of it is pending.
-/
namespace ClusterPrep.Editor

variable {due : List Panel}

/-! ### Scripts -/

theorem keeps_enterScript (script : Text) : Keeps (Followed due) (enterScript script) := by
  unfold enterScript
  have entered : Leads (Followed due) (Followed (.converter :: due))
      (setConverter fun p => { p with script }) := by
    refine Leads.modify fun s followed => followed.changed rfl rfl ?_
    intro other apart fresh
    cases other with
    | converter => exact absurd rfl apart
    | builder => exact fresh
  exact Leads.bind entered fun _ => leads_noteChange rfl

theorem keeps_setScript (script : Text) : Keeps (Followed due) (setScript script) :=
  Leads.bind (keeps_enterScript script) fun _ => keeps_refreshConverter

theorem keeps_loadScript : Keeps (Followed due) loadScript := by
  unfold loadScript
  apply Leads.read
  intro s
  apply Leads.bind (Leads.ofAttempt _)
  intro raw
  apply Leads.ite (keeps_setConverterStatus _)
  apply Leads.bind (Leads.ofAttempt _)
  intro path
  dsimp only
  cases Files.pathFailure? path.text with
  | some e => exact Leads.throw_bind e _
  | none =>
      cases s.files.readBytes path with
      | ok bytes => exact keeps_setScript _
      | error e => exact keeps_setConverterStatus _

theorem keeps_copyScript : Keeps (Followed due) copyScript := by
  unfold copyScript
  apply Leads.read
  intro s
  apply Leads.ite (keeps_setConverterStatus _)
  apply Leads.bind (Leads.modify fun _ followed => followed.congr rfl rfl rfl rfl)
  intro _
  exact keeps_setConverterStatus _

/-! ### The form -/

theorem keeps_editForm (form : Form) : Keeps (Followed due) (editForm form) := by
  unfold editForm
  have entered : Leads (Followed due) (Followed (.builder :: due))
      (setBuilder fun p => { p with form }) := by
    refine Leads.modify fun s followed => followed.changed rfl rfl ?_
    intro other apart fresh
    cases other with
    | converter => exact fresh
    | builder => exact absurd rfl apart
  exact Leads.bind entered fun _ => leads_noteChange rfl

theorem keeps_enterAt (slot : Slot) (v : Value) : Keeps (Followed due) (enterAt slot v) := by
  unfold enterAt
  apply Leads.read
  intro s
  exact Leads.ite (keeps_editForm _) (Leads.pure _)

theorem keeps_fillPlace (c : Hpl.Config) (slot : Slot) :
    Keeps (Followed due) (fillPlace c slot) := by
  unfold fillPlace
  apply Leads.read
  intro s
  apply Leads.bind (Leads.ofAttempt _)
  intro filled
  cases filled with
  | skipped => exact Leads.pure _
  | unchanged => exact Leads.pure _
  | changed form => exact Leads.bind (keeps_editForm form) fun _ => Leads.pure _

theorem keeps_fillPlaces (c : Hpl.Config) (slots : List Slot) :
    Keeps (Followed due) (fillPlaces c slots) := by
  induction slots with
  | nil => exact Leads.pure _
  | cons slot slots ih =>
      apply Leads.bind (keeps_fillPlace c slot)
      intro skipped
      exact Leads.bind ih fun _ => Leads.pure _

theorem keeps_fillForm (c : Hpl.Config) : Keeps (Followed due) (fillForm c) := by
  unfold fillForm
  apply Leads.bind (keeps_fillPlaces c Slot.all)
  intro skipped
  apply Leads.bind keeps_refreshBuilder
  intro _
  exact Leads.ite (keeps_setBuilderStatus _) (Leads.pure _)

theorem keeps_importText (content : Text) : Keeps (Followed due) (importText content) := by
  unfold importText
  apply Leads.bind (Leads.ofAttempt _)
  intro read
  cases read with
  | none => exact keeps_setBuilderStatus _
  | some c => exact keeps_fillForm c

theorem keeps_suggestGrid : Keeps (Followed due) suggestGrid := by
  unfold suggestGrid
  apply Leads.read
  intro s
  apply Leads.bind (Leads.orElse _ fun e => keeps_setBuilderStatus _)
  intro entered
  cases entered with
  | none => exact Leads.pure _
  | some entered =>
      apply Leads.bind (Leads.ofAttempt _)
      intro laidOut
      apply Leads.bind (Leads.ofAttempt _)
      intro p
      apply Leads.bind (Leads.ofAttempt _)
      intro q
      apply Leads.bind (keeps_enterAt _ _)
      intro _
      apply Leads.bind (keeps_enterAt _ _)
      intro _
      apply Leads.bind keeps_refreshNearby
      intro _
      apply Leads.bind keeps_refreshBuilder
      intro _
      exact Leads.bind (Leads.ofAttempt _) fun _ => keeps_setBuilderStatus _

theorem keeps_suggestSize : Keeps (Followed due) suggestSize := by
  unfold suggestSize
  apply Leads.read
  intro s
  apply Leads.bind (Leads.ofAttempt _)
  intro raw
  apply Leads.bind (Leads.orElse _ fun e => keeps_setBuilderStatus _)
  intro size
  cases size with
  | none => exact Leads.pure _
  | some size =>
      apply Leads.bind (Leads.ofAttempt _)
      intro text
      apply Leads.bind (keeps_enterAt _ _)
      intro _
      exact Leads.bind keeps_refreshBuilder fun _ => keeps_setBuilderStatus _

theorem keeps_enterProcesses (processes : Value) :
    Keeps (Followed due) (enterProcesses processes) := by
  unfold enterProcesses
  refine Leads.read fun s => Leads.ite ?_ (Leads.pure _)
  have entered : Keeps (Followed due) (setBuilder fun p => { p with processes }) :=
    keeps_setBuilder fun _ fresh => fresh
  apply Leads.bind entered
  intro _
  exact keeps_noteChange .processes

theorem keeps_writeOutput (path : Files.Path) : Keeps (Followed due) (writeOutput path) := by
  unfold writeOutput
  apply Leads.bind keeps_refreshBuilder
  intro _
  dsimp only
  cases Files.pathFailure? path.text with
  | some e => exact Leads.throw_bind e _
  | none =>
      apply Leads.get_bind
      intro s followed
      cases s.files.writeBytes path _ with
      | ok files =>
          have kept : Followed due { s with files } := followed.congr rfl rfl rfl rfl
          apply Leads.bind (Leads.set kept)
          intro _
          cases Text.strayHalves? (fun _ => false) (s.builder.output ++ Text.ofString "\n") with
          | some halves => exact Leads.throw_bind _ _
          | none => exact keeps_setBuilderStatus _
      | error e => exact (keeps_setBuilderStatus _).weaken fun u same => same ▸ followed

theorem keeps_startWriting : Keeps (Followed due) startWriting := by
  unfold startWriting
  apply Leads.read
  intro s
  apply Leads.bind (Leads.ofAttempt _)
  intro raw
  apply Leads.ite (keeps_setBuilderStatus _)
  apply Leads.bind (Leads.ofAttempt _)
  intro path
  have asked (there : Bool) : Keeps (Followed due)
      (if there = true then openDialog (.confirm (.overwrite path)) else writeOutput path) :=
    Leads.ite (keeps_openDialog _) (keeps_writeOutput path)
  dsimp only
  split
  · exact Leads.bind (Leads.ofAttempt _) fun there => asked there
  · exact Leads.bind (Leads.pure false) fun there => asked there

/-! ### Presets -/

theorem keeps_savePreset (name : Text) : Keeps (Followed due) (savePreset name) := by
  unfold savePreset
  apply Leads.get_bind
  intro s followed
  have here : ∀ u, u = s → Followed due u := fun u same => same ▸ followed
  apply Leads.bind ((Leads.orElse _ fun e => keeps_setBuilderStatus _).weaken here)
  intro saved
  cases saved with
  | none => exact Leads.pure _
  | some saved =>
      have kept : Followed due { s with presets := saved.1 } := followed.congr rfl rfl rfl rfl
      apply Leads.bind (Leads.set kept)
      intro _
      exact keeps_setBuilderStatus _

theorem keeps_loadPreset (name : Text) : Keeps (Followed due) (loadPreset name) := by
  unfold loadPreset
  apply Leads.read
  intro s
  apply Leads.bind (Leads.ofAttempt _)
  intro loaded
  obtain ⟨found, notices⟩ := loaded
  cases found with
  | some c => exact Leads.bind (keeps_fillForm c) fun _ => keeps_setBuilderStatus _
  | none => exact keeps_setBuilderStatus _

theorem keeps_listPresets : Keeps (Followed due) listPresets := by
  unfold listPresets
  apply Leads.read
  intro s
  split
  · dsimp only
    split
    · exact keeps_setDialog _
    · exact Leads.bind (keeps_setDialog _) fun _ => Leads.throw _
  · exact Leads.pure _

theorem keeps_choosePreset : Keeps (Followed due) choosePreset :=
  Leads.bind (keeps_openDialog _) fun _ => keeps_listPresets

theorem keeps_deletePreset (name : Text) : Keeps (Followed due) (deletePreset name) := by
  unfold deletePreset
  apply Leads.get_bind
  intro s followed
  apply Leads.bind (Leads.ofAttempt _)
  intro deleted
  exact Leads.bind (Leads.set (followed.congr rfl rfl rfl rfl)) fun _ => keeps_listPresets

theorem keeps_askToDelete (table : PresetTable) : Keeps (Followed due) (askToDelete table) := by
  unfold askToDelete
  apply Leads.bind (Leads.ofAttempt _)
  intro selected
  cases selected with
  | some name => exact keeps_openDialog _
  | none => exact Leads.pure _

theorem keeps_closeAndLoad (name : Text) : Keeps (Followed due) (closeAndLoad name) := by
  unfold closeAndLoad
  apply Leads.bind keeps_closeDialog
  intro _
  exact Leads.ite (keeps_loadPreset name) (Leads.pure _)

theorem keeps_submitName (name : Value) : Keeps (Followed due) (submitName name) := by
  unfold submitName
  apply Leads.bind (Leads.ofAttempt _)
  intro entered
  cases Preset.checkName entered with
  | ok checked => exact Leads.bind keeps_closeDialog fun _ => keeps_savePreset checked
  | error e => exact keeps_setDialog _

theorem keeps_confirmed (question : Question) : Keeps (Followed due) (confirmed question) := by
  cases question with
  | overwrite path => exact keeps_writeOutput path
  | deletePreset name => exact keeps_deletePreset name

/-! ### Events -/

theorem keeps_reloadSettings : Keeps (Followed due) reloadSettings := by
  unfold reloadSettings
  apply Leads.read
  intro s
  apply Leads.bind (Leads.ofAttempt _)
  intro loaded
  exact Leads.modify fun _ followed => followed.congr rfl rfl rfl rfl

theorem keeps_onEnter (v : Value) (w : Widget) : Keeps (Followed due) (onEnter v w) := by
  unfold onEnter
  split
  · exact keeps_setConverter fun _ fresh => fresh
  · exact keeps_enterProcesses v
  · exact keeps_setBuilder fun _ fresh => fresh
  · exact keeps_enterAt _ v
  · exact keeps_setBuilder fun _ fresh => fresh
  · apply Leads.read
    intro s
    split
    · refine Leads.ite ?_ (Leads.pure _)
      exact Leads.bind (keeps_setDialog _) fun _ => keeps_noteChange _
    · exact Leads.pure _
  · exact Leads.pure _

theorem keeps_onPaste (content : Text) (w : Widget) : Keeps (Followed due) (onPaste content w) := by
  unfold onPaste
  split
  · exact keeps_enterScript content
  · exact keeps_setDialog _
  · exact Leads.pure _

theorem keeps_onDialogPress (d : Dialog) (button : Widget) :
    Keeps (Followed due) (onDialogPress d button) := by
  unfold onDialogPress
  split
  · exact keeps_closeDialog
  · exact Leads.pure _
  · exact Leads.bind keeps_closeDialog fun _ => keeps_importText _
  · exact keeps_submitName _
  · apply Leads.bind (Leads.ofAttempt _)
    intro selected
    cases selected with
    | some name => exact keeps_closeAndLoad name
    | none => exact Leads.pure _
  · exact keeps_askToDelete _
  · exact Leads.bind keeps_closeDialog fun _ => keeps_confirmed _
  · exact keeps_closeDialog

theorem keeps_onPanelPress (w : Widget) : Keeps (Followed due) (onPanelPress w) := by
  unfold onPanelPress
  split
  · exact keeps_loadScript
  · exact keeps_copyScript
  · exact keeps_suggestGrid
  · exact keeps_suggestSize
  · exact keeps_openDialog _
  · exact keeps_startWriting
  · exact keeps_openDialog _
  · exact keeps_choosePreset
  · exact Leads.pure _

theorem keeps_onPanelCommand {command : Command} {step : Step Unit}
    (found : onPanelCommand command = some step) : Keeps (Followed due) step := by
  cases command <;> cases found
  case loadScript => exact keeps_loadScript
  case copyScript => exact keeps_copyScript
  case suggestGrid => exact keeps_suggestGrid
  case suggestSize => exact keeps_suggestSize
  case importForm => exact keeps_openDialog _
  case writeFile => exact keeps_startWriting
  case savePreset => exact keeps_openDialog _
  case loadPreset => exact keeps_choosePreset
  case reloadSettings => exact keeps_reloadSettings
  case switchTab tab => exact Leads.modify fun _ followed => followed.congr rfl rfl rfl rfl

theorem keeps_onDialogCommand {d : Dialog} {command : Command} {step : Step Unit}
    (found : onDialogCommand d command = some step) : Keeps (Followed due) step := by
  unfold onDialogCommand at found
  split at found <;> cases found
  · exact keeps_closeDialog
  · exact keeps_closeDialog
  · exact keeps_askToDelete _

theorem keeps_callCommand (name : Text) (args : List Value) :
    Keeps (Followed due) (callCommand name args) := by
  unfold callCommand
  apply Leads.read
  intro s
  dsimp only
  cases Command.ofName? name args with
  | none => exact Leads.throw _
  | some command =>
      dsimp only
      cases found : onCommand s.dialogs command with
      | none => exact Leads.throw _
      | some step =>
          refine Leads.ite ?_ (Leads.throw _)
          unfold onCommand at found
          split at found
          · exact keeps_onPanelCommand found
          · exact keeps_onDialogCommand found

theorem keeps_withTable {f : PresetTable → Step Unit}
    (each : ∀ table, Keeps (Followed due) (f table)) :
    Keeps (Followed due) (withTable f) := by
  unfold withTable
  apply Leads.read
  intro s
  split
  · exact each _
  · exact Leads.throw _

theorem keeps_find (name : Text) : Keeps (Followed due) (find name) := by
  unfold find
  apply Leads.read
  intro s
  split
  · exact Leads.pure _
  · exact Leads.throw _

/-- Whatever the user does, every edit is followed. -/
theorem keeps_perform (event : Event) : Keeps (Followed due) (perform event) := by
  cases event with
  | enter widget v => exact Leads.bind (keeps_find widget) fun w => keeps_onEnter v w
  | paste widget content => exact Leads.bind (keeps_find widget) fun w => keeps_onPaste content w
  | press button =>
      apply Leads.bind (keeps_find button)
      intro w
      apply Leads.read
      intro s
      split
      · exact keeps_onPanelPress w
      · exact keeps_onDialogPress _ w
  | submit widget =>
      apply Leads.bind (keeps_find widget)
      intro w
      apply Leads.read
      intro s
      split
      · exact keeps_submitName _
      · exact Leads.pure _
  | click widget =>
      cases widget with
      | none => exact Leads.pure _
      | some widget =>
          apply Leads.bind (keeps_find widget)
          intro w
          split
          · exact keeps_openDialog _
          · exact Leads.pure _
  | moveCursor row => exact keeps_withTable fun table => keeps_setDialog _
  | selectRow row =>
      refine keeps_withTable fun table => ?_
      exact Leads.bind (Leads.ofAttempt _) fun row => keeps_closeAndLoad _
  | call name args => exact keeps_callCommand name args
  | wait => exact keeps_passTime

/-! ### Runs -/

theorem keeps_step (action : Action) : Keeps (Followed due) action.step := by
  cases action with
  | event e => exact keeps_perform e
  | fill c => exact keeps_fillForm c
  | importText content => exact keeps_importText content
  | setScript script => exact keeps_setScript script
  | surround around => exact Leads.modify fun _ followed => followed.congr rfl rfl rfl rfl

/-- The first refresh makes the builder fresh; a converter without a script is so already. -/
theorem leads_firstRefresh (script : Text) :
    Leads (Followed [.builder]) (Followed []) (firstRefresh script) := by
  unfold firstRefresh
  apply Leads.bind keeps_refreshConverter
  intro _
  apply Leads.bind leads_refreshBuilder
  intro _
  apply Leads.bind keeps_refreshNearby
  intro _
  exact Leads.ite (keeps_setScript script) (Leads.pure _)

theorem followed_blank {settings : Settings} {blank : Session}
    (opened : Session.blank settings = .ok blank) (around : Surroundings) :
    Followed [.builder] (blank.within around) := by
  have bare : blank.timing = {} ∧ blank.converter.IsFresh := by
    rw [Session.blank] at opened
    cases processes : Numeral.writeInt settings.processCount with
    | error e =>
        rw [processes] at opened
        cases opened
    | ok text =>
        rw [processes] at opened
        cases form : Form.default with
        | error e =>
            rw [form] at opened
            cases opened
        | ok entries =>
            rw [form] at opened
            cases opened
            exact ⟨rfl, rfl, rfl⟩
  constructor
  · rw [Session.within, bare.1]
    exact Timers.tracked_empty
  · intro panel
    cases panel with
    | converter => exact Or.inr (Or.inr (Or.inr bare.2))
    | builder => exact Or.inl (by simp)

/-- No edit is noted any more once all edits were followed. -/
theorem leads_settle_unnoted : Leads (fun _ => True) (fun s => s.changes = []) settle := by
  apply Leads.read
  intro s
  have cleared : Leads (fun _ => True) (fun s => s.changes = [])
      (modify fun s => { s with changes := [] }) := Leads.modify fun _ _ => rfl
  apply Leads.bind cleared
  intro _
  apply Leads.forM (fun _ s => s.changes = [])
  intro c rest
  have scheduled (panel : Panel) :
      Keeps (fun s => s.changes = []) (modify (·.schedule panel)) :=
    Leads.modify fun _ unnoted => unnoted
  cases c with
  | script => exact scheduled .converter
  | form => exact scheduled .builder
  | processes =>
      refine Leads.bind (Leads.read fun s => ?_) fun _ => scheduled .builder
      exact Leads.bind (Leads.ofAttempt _) fun _ => Leads.modify fun _ unnoted => unnoted
  | presetName =>
      apply Leads.read
      intro s
      split
      · exact Leads.bind (Leads.ofAttempt _) fun _ => Leads.modify fun _ unnoted => unnoted
      · exact Leads.pure _

/-- A run keeps every edit followed, and between its steps no edit is noted. -/
theorem Reached.followed {s : Session} (reached : Reached s) :
    Followed [] s ∧ s.changes = [] := by
  induction reached with
  | start around script opened began =>
      obtain ⟨u, first, settled⟩ := Session.take_of_ok began
      have followed := (leads_firstRefresh script).run _ (followed_blank opened around) _ _ first
      exact ⟨keeps_settle.run _ followed _ _ settled,
        leads_settle_unnoted.run _ trivial _ _ settled⟩
  | next action _ done ih =>
      obtain ⟨u, first, settled⟩ := Session.take_of_ok done
      have followed := (keeps_step action).run _ ih.1 _ _ first
      exact ⟨keeps_settle.run _ followed _ _ settled,
        leads_settle_unnoted.run _ trivial _ _ settled⟩

/-! ### The passing of time -/

/-- No timer is pending, and no edit is noted. -/
def Idle (s : Session) : Prop := s.timers = [] ∧ s.changes = []

theorem keeps_idle_refresh (panel : Panel) : Keeps Idle (refresh panel) := by
  constructor
  intro s idle a t done
  cases panel with
  | converter =>
      obtain ⟨status, rfl⟩ := refreshConverter_cases done
      exact idle
  | builder =>
      rcases refreshBuilder_cases done with ⟨e, -, -, rfl⟩ | ⟨c, output, message, -, -, rfl⟩
      · exact idle
      · exact idle

theorem leads_passTime : Leads (fun s => s.changes = []) Idle passTime := by
  apply Leads.read
  intro s
  have emptied : Leads (fun s => s.changes = []) Idle
      (modify fun s => { s with timing := s.timing.elapse }) :=
    Leads.modify fun _ unnoted => ⟨rfl, unnoted⟩
  exact Leads.bind emptied fun _ => Leads.forM (fun _ => Idle) fun t _ => keeps_idle_refresh t.panel

theorem keeps_idle_settle : Keeps Idle settle := by
  apply Leads.get_bind
  intro s idle
  rw [idle.2]
  have cleared : Leads (fun u => u = s) Idle (modify fun s => { s with changes := [] }) := by
    apply Leads.modify
    intro u same
    subst same
    exact ⟨idle.1, rfl⟩
  exact Leads.bind cleared fun _ => Leads.pure _

/-- Once the delays have passed, no timer is pending. -/
theorem Reached.timers_of_wait {s t : Session} (reached : Reached s)
    (done : s.take (Action.event .wait).step = (.ok ⟨⟩, t)) : t.timers = [] := by
  obtain ⟨u, first, settled⟩ := Session.take_of_ok done
  have idle := leads_passTime.run s reached.followed.2 _ _ first
  exact (keeps_idle_settle.run u idle _ _ settled).1

/-! ### What the panels show -/

/-- What is promised of the previews: no panel has two timers, and a panel without a timer shows
    what was entered in it. -/
structure UpToDate (s : Session) : Prop where
  oneTimer : ∀ panel, (s.timers.filter (·.panel = panel)).length ≤ 1
  converter : Pending s .converter ∨
    s.converter.output = Batch.convert s.converter.script ∧
      s.panelContent? .scriptPreview = some (.log
        (if s.converter.output.isEmpty then [] else [Display.script s.converter.output]))
  builder : Pending s .builder ∨
    (∃ e, s.builder.form.config = .error e ∧ e.kind = .badValue) ∨
    ∃ c, s.builder.form.config = .ok c ∧ Hpl.write c = .ok s.builder.output ∧
      s.panelContent? .formPreview = some (.log [plain s.builder.output])

theorem UpToDate.of_followed {s : Session} (followed : Followed [] s) (unnoted : s.changes = []) :
    UpToDate s := by
  have each (panel : Panel) : Pending s panel ∨ Fresh s panel := by
    rcases followed.each panel with inside | pending | ⟨c, member, -⟩ | fresh
    · cases inside
    · exact Or.inl pending
    · rw [unnoted] at member
      cases member
    · exact Or.inr fresh
  refine ⟨followed.tracked.length_le_one, ?_, ?_⟩
  · refine (each .converter).imp_right fun fresh => ⟨fresh.1, ?_⟩
    rw [Session.panelContent?, fresh.2]
    split <;> rfl
  · refine (each .builder).imp_right fun fresh => ?_
    rcases fresh with bad | ⟨c, holds, written, shown⟩
    · exact Or.inl bad
    · refine Or.inr ⟨c, holds, written, ?_⟩
      rw [Session.panelContent?, shown]
      rfl

/-- In every run, the previews are up to date after every step, and once the delays have passed no
    timer is pending. -/
theorem reached_upToDate {s : Session} (reached : Reached s) :
    UpToDate s ∧
      ∀ t, s.take (Action.event .wait).step = (.ok ⟨⟩, t) → t.timers = [] := by
  obtain ⟨followed, unnoted⟩ := reached.followed
  exact ⟨UpToDate.of_followed followed unnoted, fun t done => reached.timers_of_wait done⟩

/-- The start after letters were typed in for the problem sizes: what is shown is that of before,
    and a timer is pending until the delays have passed. -/
theorem reached_upToDate_withLetters :
    Reached withLetters ∧ UpToDate withLetters ∧
      ∃ t, withLetters.take (Action.event .wait).step = (.ok ⟨⟩, t) ∧ t.timers = [] := by
  obtain ⟨upToDate, waited⟩ := reached_upToDate reached_withLetters
  have passes : (withLetters.take (Action.event .wait).step).1.toOption = some ⟨⟩ := by
    decide +kernel
  have taken := Session.take_eq_of_ok passes
  exact ⟨reached_withLetters, upToDate, _, taken, waited _ taken⟩

end ClusterPrep.Editor
