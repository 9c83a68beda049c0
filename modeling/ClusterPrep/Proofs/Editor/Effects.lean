import ClusterPrep.Proofs.Editor.PresetTable
import ClusterPrep.Proofs.Editor.Quiet

set_option autoImplicit false

/-
  All that the editor can do to files, presets and dialogs when something is done in it, whether
  that fails or not. Whatever is proved of one action from here on follows from this list.
-/
namespace ClusterPrep.Editor

/-! ### Questions and how they come up -/

/-- The action presses a button or calls the command that does the same. -/
inductive Action.Invokes (button : Widget) (command : Command) : Action → Prop
  | press : Invokes button command (.event (.press button.name))
  | call {name : Text} {args : List Value} (known : Command.ofName? name args = some command) :
      Invokes button command (.event (.call name args))

/-- The path that the user has entered for the output. -/
def Session.enteredPath (s : Session) : Attempt Files.Path := do
  (Files.Path.ofText (Text.strip (← s.builder.path.asText))).expanded s.homes

/-- The row is the selected one of the table on top. -/
def Session.Selects (s : Session) (row : Row) : Prop :=
  ∃ table below, s.dialogs = .loadPreset table :: below ∧ table.row table.cursor = .ok row

/-- What an action asks the user to confirm: to write over what is at the path that is entered, or
    to delete the preset in the selected row. -/
inductive Asks (s : Session) (action : Action) : Question → Prop
  | overwrite {path : Files.Path} (invoked : action.Invokes .writeFile .writeFile)
      (alone : s.dialogs = []) (entered : s.enteredPath = .ok path)
      (there : s.files.exists? path = .ok true) : Asks s action (.overwrite path)
  | deletePreset {row : Row} (invoked : action.Invokes .deletePreset .deletePreset)
      (selected : s.Selects row) : Asks s action (.deletePreset row.name)

/-! ### The list of effects -/

/-- The presets of the rows are there. -/
def PresetTable.Lists (table : PresetTable) (store : Preset.Store) : Prop :=
  ∀ row ∈ table.rows, row.name ∈ store.names

/-- A dialog that asks nothing. The presets that it shows are there. -/
inductive Dialog.Opens (store : Preset.Store) : Dialog → Prop
  | help (title body : Text) : Opens store (.help title body)
  | importText (content : Text) : Opens store (.importText content)
  | savePreset (name : Value) (hint : Hint) : Opens store (.savePreset name hint)
  | loadPreset {table : PresetTable} (lists : table.Lists store) : Opens store (.loadPreset table)

/-- A table of presets on top may have been filled anew. -/
inductive Relists (store : Preset.Store) : List Dialog → List Dialog → Prop
  | kept (dialogs : List Dialog) : Relists store dialogs dialogs
  | filled {old table : PresetTable} {below : List Dialog} (lists : table.Lists store) :
      Relists store (.loadPreset old :: below) (.loadPreset table :: below)

/-- The actions that say that something is to be saved. -/
inductive Action.Saves : Action → Prop
  | press : Saves (.event (.press Widget.acceptSave.name))
  | submit (widget : Text) : Saves (.event (.submit widget))

/-- What is held after an action in a session. -/
inductive Effect (s : Session) (action : Action) : Held → Prop
  | quiet : Effect s action s.held
  | opens {d : Dialog} (alone : s.dialogs = []) (opens : d.Opens s.presets) :
      Effect s action { s.held with dialogs := [d] }
  | closes : Effect s action { s.held with dialogs := s.held.dialogs.tail }
  | points {table : PresetTable} {below : List Dialog}
      (top : s.dialogs = .loadPreset table :: below) (row : Int) : Effect s action
        { s.held with
          dialogs := .loadPreset { table with cursor := row } :: s.held.dialogs.tail }
  | asks {question : Question} (asks : Asks s action question) :
      Effect s action { s.held with dialogs := .confirm question :: s.held.dialogs }
  | writes {path : Files.Path} {bytes : List UInt8} {files : Files.Tree}
      (invoked : action.Invokes .writeFile .writeFile) (alone : s.dialogs = [])
      (free : s.files.exists? path = .ok false)
      (written : s.files.writeBytes path bytes = .ok files) :
      Effect s action { s.held with files }
  | overwrites {path : Files.Path} {bytes : List UInt8} {files : Files.Tree}
      (confirmed : action = .event (.press Widget.confirm.name))
      (top : s.dialogs.head? = some (.confirm (.overwrite path)))
      (written : s.files.writeBytes path bytes = .ok files) :
      Effect s action { s.held with files, dialogs := s.held.dialogs.tail }
  | saves {name checked : Text} {bytes : List UInt8} (saves : action.Saves)
      (good : Preset.checkName name = .ok checked) : Effect s action
        { s.held with
          presets := s.presets.putFile (Preset.fileOf checked) bytes
          dialogs := s.held.dialogs.tail }
  | deletes {name checked : Text} {dialogs : List Dialog}
      (confirmed : action = .event (.press Widget.confirm.name))
      (top : s.dialogs.head? = some (.confirm (.deletePreset name)))
      (good : Preset.checkName name = .ok checked)
      (relists :
        Relists (s.presets.removeFile (Preset.fileOf checked)) s.held.dialogs.tail dialogs) :
      Effect s action
        { s.held with presets := s.presets.removeFile (Preset.fileOf checked), dialogs }

namespace Effect

variable {s : Session} {action : Action}

theorem of_held {h : Held} (same : h = s.held) : Effect s action h := by
  rw [same]
  exact .quiet

theorem of_quiet {α : Type} {step : Step α} (quiet : Quiet step) :
    Effect s action (step.after s).held := of_held (quiet.held s)

theorem ofAttempt_bind {α β : Type} {x : Attempt α} {f : α → Step β}
    (each : ∀ a, x = .ok a → Effect s action ((f a).after s).held) :
    Effect s action ((Step.ofAttempt x >>= f).after s).held :=
  Step.after_ofAttempt_bind (P := fun t => Effect s action t.held) .quiet each

/-- An event reaches a part by its name, if that is on the screen. -/
theorem find_bind {α : Type} {name : Text} {f : Widget → Step α}
    (each : ∀ w ∈ s.reachable, w.name = name → Effect s action ((f w).after s).held) :
    Effect s action ((find name >>= f).after s).held := by
  rw [find, bind_assoc, Step.after_get_bind]
  cases sought : s.reachable.find? (·.name == name) with
  | none => exact .quiet
  | some w =>
      have named := List.find?_some sought
      exact each w (List.mem_of_find?_eq_some sought) (beq_iff_eq.mp named)

end Effect

/-! ### Steps that change more -/

theorem held_after_closeDialog (s : Session) :
    (closeDialog.after s).held = { s.held with dialogs := s.held.dialogs.tail } := by
  change Held.mk s.files s.presets (s.dialogs.tail.map .untyped) = _
  rw [List.map_tail]
  rfl

theorem held_after_openDialog (d : Dialog) (s : Session) :
    ((openDialog d).after s).held = { s.held with dialogs := d.untyped :: s.held.dialogs } := rfl

/-- Listing the presets fills the table on top, and leaves all else. -/
theorem held_after_listPresets (s : Session) : ∃ dialogs,
    Relists s.presets s.held.dialogs dialogs ∧
      (listPresets.after s).held = { s.held with dialogs } := by
  rw [listPresets, Step.after_get_bind]
  split
  · rename_i table below top
    have held : s.held.dialogs = .loadPreset table :: below.map .untyped := by
      rw [Session.held, top]
      rfl
    have filled (t : PresetTable) : ((setDialog (.loadPreset t)).after s).held =
        { s.held with dialogs := .loadPreset t :: below.map .untyped } := by
      rw [held_after_setDialog, held]
      rfl
    rw [held]
    dsimp only
    rcases made : rowsOf s.nesting s.presets s.presets.names with ⟨rows, _ | e⟩
    · exact ⟨_, .filled fun row member => name_mem_of_rowsOf (by rwa [made]), filled _⟩
    · exact ⟨_, .filled fun row member => name_mem_of_rowsOf (by rwa [made]), filled _⟩
  · exact ⟨_, .kept _, rfl⟩

/-- Writing the output puts a file at the path, or changes nothing that is held. -/
theorem held_after_writeOutput (path : Files.Path) (s : Session) :
    ((writeOutput path).after s).held = s.held ∨ Files.pathFailure? path.text = none ∧
      ∃ bytes files, s.files.writeBytes path bytes = .ok files ∧
        ((writeOutput path).after s).held = { s.held with files } := by
  have refreshed := quiet_refreshBuilder.held s
  rw [writeOutput]
  cases ran : refreshBuilder.run s with
  | error e t =>
      rw [Step.after_of_error ran] at refreshed
      rw [Step.after_bind_of_error ran]
      exact Or.inl refreshed
  | ok u t =>
      rw [Step.after_of_ok ran] at refreshed
      rw [Step.after_bind_of_ok ran, ← refreshed]
      have files : t.files = s.files := congrArg Held.files refreshed
      rw [← files]
      dsimp only
      cases good : Files.pathFailure? path.text with
      | some e => exact Or.inl rfl
      | none =>
          dsimp only
          rw [Step.after_get_bind]
          cases written : t.files.writeBytes path
              (if (Text.strayHalves? (fun _ => false) (t.builder.output ++ "\n")).isSome then []
                else Text.encode (t.builder.output ++ "\n")) with
          | error e => exact Or.inl ((quiet_setBuilderStatus _).held t)
          | ok files =>
              refine Or.inr ⟨rfl, _, files, written, ?_⟩
              cases Text.strayHalves? (fun _ => false) (t.builder.output ++ "\n") with
              | some halves => rfl
              | none => rfl

section

variable {s : Session} {action : Action}

/-- A file is written at once where nothing is, and otherwise the user is asked. -/
theorem effect_startWriting (invoked : action.Invokes .writeFile .writeFile)
    (alone : s.dialogs = []) : Effect s action (startWriting.after s).held := by
  rw [startWriting, Step.after_get_bind]
  apply Effect.ofAttempt_bind
  intro raw typed
  dsimp only
  split
  · exact .of_quiet (quiet_setBuilderStatus _)
  apply Effect.ofAttempt_bind
  intro path expanded
  have entered : s.enteredPath = .ok path := by
    rw [Session.enteredPath, typed]
    exact expanded
  cases good : Files.pathFailure? path.text with
  | some e =>
      rcases held_after_writeOutput path s with same | ⟨good', -⟩
      · exact .of_held same
      · rw [good] at good'
        cases good'
  | none =>
      apply Effect.ofAttempt_bind
      intro there known
      cases found : s.files.exists? path with
      | error e =>
          rw [found] at known
          cases known
      | ok present =>
          rw [found] at known
          obtain rfl : present = there := Except.ok.inj known
          cases present with
          | true => exact .asks (.overwrite invoked alone entered found)
          | false =>
              rcases held_after_writeOutput path s with same | ⟨-, bytes, files, written, held⟩
              · exact .of_held same
              · exact held ▸ .writes invoked alone found written

/-- Deleting asks about the selected preset, if there is one. -/
theorem effect_askToDelete {table : PresetTable} {below : List Dialog}
    (invoked : action.Invokes .deletePreset .deletePreset)
    (top : s.dialogs = .loadPreset table :: below) :
    Effect s action ((askToDelete table).after s).held := by
  apply Effect.ofAttempt_bind
  intro name? selected
  cases name? with
  | none => exact .quiet
  | some name =>
      rw [PresetTable.selected] at selected
      split at selected
      · cases selected
      · obtain ⟨row, found, same⟩ := Attempt.exists_of_bind selected
        cases same
        exact .asks (.deletePreset invoked ⟨table, below, top, found⟩)

/-- The presets are shown in a dialog, as far as there are rows for them. -/
theorem effect_choosePreset (alone : s.dialogs = []) :
    Effect s action (choosePreset.after s).held := by
  have shown (table : PresetTable) (lists : table.Lists s.presets) :
      Effect s action (s.onTop (.loadPreset table)).held := by
    rw [Session.onTop, alone]
    exact .opens alone (.loadPreset lists)
  rw [Step.after, run_choosePreset]
  rcases made : rowsOf s.nesting s.presets s.presets.names with ⟨rows, _ | e⟩
  · exact shown _ fun row member => name_mem_of_rowsOf (by rwa [made])
  · exact shown _ fun row member => name_mem_of_rowsOf (by rwa [made])

/-- Saving puts a file for the name, or changes nothing that is held. -/
theorem held_after_savePreset (name : Text) (s : Session) :
    ((savePreset name).after s).held = s.held ∨ ∃ checked bytes,
      Preset.checkName name = .ok checked ∧ ((savePreset name).after s).held =
        { s.held with presets := s.presets.putFile (Preset.fileOf checked) bytes } := by
  rw [savePreset, Step.after_get_bind]
  dsimp only
  cases saved : (do s.presets.save name (← s.builder.form.config) : Attempt _) with
  | error e =>
      left
      unfold Step.orElse
      dsimp only
      split
      · rfl
      · rfl
  | ok result =>
      obtain ⟨c, -, saved⟩ := Attempt.exists_of_bind saved
      obtain ⟨file, found, saved⟩ := Attempt.exists_of_bind saved
      obtain ⟨text, -, saved⟩ := Attempt.exists_of_bind saved
      obtain ⟨checked, named, same⟩ := Attempt.exists_of_bind found
      cases same
      cases saved
      exact Or.inr ⟨checked, _, named, rfl⟩

theorem after_closeDialog_bind {α : Type} (f : PUnit → Step α) (s : Session) :
    (closeDialog >>= f).after s = (f ⟨⟩).after (closeDialog.after s) :=
  Step.after_modify_bind _ f s

theorem effect_closeDialog : Effect s action (closeDialog.after s).held := by
  rw [held_after_closeDialog]
  exact .closes

/-- Closing the dialog on top and going on quietly. -/
theorem effect_closeDialog_bind {α : Type} {f : PUnit → Step α} (quiet : Quiet (f ⟨⟩)) :
    Effect s action ((closeDialog >>= f).after s).held := by
  rw [after_closeDialog_bind, quiet.held]
  exact effect_closeDialog

theorem effect_closeAndLoad (name : Text) : Effect s action ((closeAndLoad name).after s).held :=
  effect_closeDialog_bind (Quiet.ite (quiet_loadPreset name) (Quiet.pure _))

theorem effect_submitName {name : Value} {hint : Hint} {below : List Dialog}
    (saves : action.Saves) (top : s.dialogs = .savePreset name hint :: below) :
    Effect s action ((submitName name).after s).held := by
  apply Effect.ofAttempt_bind
  intro entered typed
  cases Preset.checkName entered with
  | error e => exact .of_held (held_after_retype top rfl)
  | ok checked =>
      have closed := held_after_closeDialog s
      dsimp only
      rw [after_closeDialog_bind]
      rcases held_after_savePreset checked (closeDialog.after s) with same | ⟨n, bytes, good, held⟩
      · rw [same, closed]
        exact .closes
      · rw [held, closed]
        exact .saves saves good

/-- A confirmation does what the question was about, unless that fails. -/
theorem effect_confirmed {question : Question}
    (pressed : action = .event (.press Widget.confirm.name))
    (top : s.dialogs.head? = some (.confirm question)) :
    Effect s action ((do closeDialog; confirmed question : Step Unit).after s).held := by
  have closed := held_after_closeDialog s
  rw [after_closeDialog_bind]
  cases question with
  | overwrite path =>
      rcases held_after_writeOutput path (closeDialog.after s) with
        same | ⟨-, bytes, files, written, held⟩
      · rw [confirmed, same, closed]
        exact .closes
      · rw [confirmed, held, closed]
        exact .overwrites pressed top written
  | deletePreset name =>
      rw [confirmed, deletePreset, Step.after_get_bind]
      refine Step.after_ofAttempt_bind (P := fun t => Effect s action t.held) ?_ ?_
      · exact effect_closeDialog
      · rintro ⟨presets, there⟩ deleted
        obtain ⟨file, found, same⟩ := Attempt.exists_of_bind deleted
        obtain ⟨checked, good, named⟩ := Attempt.exists_of_bind found
        cases named
        cases same
        obtain ⟨dialogs, relists, held⟩ := held_after_listPresets
          { closeDialog.after s with
            presets := (closeDialog.after s).presets.removeFile (Preset.fileOf checked) }
        have below : (closeDialog.after s).held.dialogs = s.held.dialogs.tail :=
          congrArg Held.dialogs closed
        change Relists _ (closeDialog.after s).held.dialogs dialogs at relists
        rw [below] at relists
        change Effect s action (listPresets.after _).held
        rw [held]
        exact .deletes pressed top good relists

end

/-! ### Events -/

section

variable {s : Session}

/-- The parts of a dialog are reached while it is on top. -/
theorem exists_importText_of_reachable (reached : .importContent ∈ s.reachable) :
    ∃ content below, s.dialogs = .importText content :: below := by
  rw [Session.reachable] at reached
  split at reached
  · exact absurd reached (by decide)
  · rename_i d below top
    cases d with
    | importText content => exact ⟨content, below, top⟩
    | _ => simp [Widget.ofDialog] at reached

theorem dialogs_eq_nil_of_reachable {field : Hpl.Field} (reached : .helpLink field ∈ s.reachable) :
    s.dialogs = [] := by
  rw [Session.reachable] at reached
  split at reached
  · assumption
  · rename_i d below top
    cases d <;> simp [Widget.ofDialog] at reached

theorem quiet_onEnter (v : Value) (w : Widget) : Quiet (onEnter v w) := by
  rw [onEnter.eq_def]
  split
  · exact quiet_setConverter _
  · exact quiet_enterProcesses v
  · exact quiet_setBuilder _
  · exact quiet_enterAt _ v
  · exact quiet_setBuilder _
  · apply Quiet.get_bind
    intro s
    split
    · rename_i name hint below top
      split
      · have noted := (quiet_noteChange .presetName).held ((setDialog (.savePreset v hint)).after s)
        exact noted.trans (held_after_retype top rfl)
      · rfl
    · rfl
  · exact Quiet.pure _

theorem held_after_onPaste (content : Text) {w : Widget} (reached : w ∈ s.reachable) :
    ((onPaste content w).after s).held = s.held := by
  rw [onPaste.eq_def]
  split
  · exact (quiet_enterScript content).held s
  · obtain ⟨old, below, top⟩ := exists_importText_of_reachable reached
    exact held_after_retype top rfl
  · rfl

variable {action : Action}

theorem effect_openDialog {d : Dialog} (alone : s.dialogs = [])
    (opens : d.untyped.Opens s.presets) : Effect s action ((openDialog d).after s).held := by
  rw [held_after_openDialog, Session.held, alone]
  exact .opens alone opens

/-- A button of the panels. -/
theorem effect_onPanelPress {w : Widget} (alone : s.dialogs = [])
    (pressed : action = .event (.press w.name)) :
    Effect s action ((onPanelPress w).after s).held := by
  rw [onPanelPress.eq_def]
  split
  · exact .of_quiet quiet_loadScript
  · exact .of_quiet quiet_copyScript
  · exact .of_quiet quiet_suggestGrid
  · exact .of_quiet quiet_suggestSize
  · exact effect_openDialog alone (.importText [])
  · exact effect_startWriting (pressed ▸ .press) alone
  · exact effect_openDialog alone (.savePreset (.text []) {})
  · exact effect_choosePreset alone
  · exact .quiet

theorem effect_onDialogPress {w : Widget} {d : Dialog} {below : List Dialog}
    (top : s.dialogs = d :: below) (pressed : action = .event (.press w.name)) :
    Effect s action ((onDialogPress d w).after s).held := by
  rw [onDialogPress.eq_def]
  split
  · exact effect_closeDialog
  · exact .quiet
  · exact effect_closeDialog_bind (quiet_importText _)
  · exact effect_submitName (pressed ▸ .press) top
  · apply Effect.ofAttempt_bind
    intro name? selected
    cases name? with
    | none => exact .quiet
    | some name => exact effect_closeAndLoad name
  · exact effect_askToDelete (pressed ▸ .press) top
  · exact effect_confirmed pressed (by rw [top]; rfl)
  · exact effect_closeDialog

theorem effect_onPanelCommand {command : Command} {step : Step Unit} (alone : s.dialogs = [])
    (invoked : ∀ button, action.Invokes button command)
    (does : onPanelCommand command = some step) : Effect s action (step.after s).held := by
  rw [onPanelCommand.eq_def] at does
  split at does
  · cases does
    exact .of_quiet quiet_loadScript
  · cases does
    exact .of_quiet quiet_copyScript
  · cases does
    exact .of_quiet quiet_suggestGrid
  · cases does
    exact .of_quiet quiet_suggestSize
  · cases does
    exact effect_openDialog alone (.importText [])
  · cases does
    exact effect_startWriting (invoked _) alone
  · cases does
    exact effect_openDialog alone (.savePreset (.text []) {})
  · cases does
    exact effect_choosePreset alone
  · cases does
    exact .of_quiet quiet_reloadSettings
  · cases does
    exact .quiet
  · cases does
  · cases does
  · cases does

theorem effect_onDialogCommand {d : Dialog} {below : List Dialog} {command : Command}
    {step : Step Unit} (top : s.dialogs = d :: below)
    (invoked : ∀ button, action.Invokes button command)
    (does : onDialogCommand d command = some step) : Effect s action (step.after s).held := by
  rw [onDialogCommand.eq_def] at does
  split at does
  · cases does
    exact effect_closeDialog
  · cases does
  · cases does
    exact effect_closeDialog
  · cases does
    exact effect_askToDelete (invoked _) top
  · cases does

theorem effect_callCommand (name : Text) (args : List Value) :
    Effect s (.event (.call name args)) ((callCommand name args).after s).held := by
  rw [callCommand, Step.after_get_bind]
  dsimp only
  cases known : Command.ofName? name args with
  | none => exact .quiet
  | some command =>
      have invoked button : Action.Invokes button command (.event (.call name args)) := .call known
      dsimp only
      cases does : onCommand s.dialogs command with
      | none => exact .quiet
      | some step =>
          dsimp only
          split
          · cases top : s.dialogs with
            | nil =>
                rw [top] at does
                exact effect_onPanelCommand top invoked does
            | cons d below =>
                rw [top] at does
                exact effect_onDialogCommand top invoked does
          · exact .quiet

theorem effect_withTable {f : PresetTable → Step Unit}
    (each : ∀ table below, s.dialogs = .loadPreset table :: below →
      Effect s action ((f table).after s).held) :
    Effect s action ((withTable f).after s).held := by
  rw [withTable, Step.after_get_bind]
  split
  · rename_i table below top
    exact each table below top
  · exact .quiet

theorem effect_perform (e : Event) : Effect s (.event e) ((perform e).after s).held := by
  cases e with
  | enter widget v =>
      exact .find_bind fun w _ _ => .of_quiet (quiet_onEnter v w)
  | paste widget content =>
      exact .find_bind fun w reached _ => .of_held (held_after_onPaste content reached)
  | press button =>
      refine .find_bind fun w _ named => ?_
      subst named
      rw [Step.after_get_bind]
      cases top : s.dialogs with
      | nil => exact effect_onPanelPress top rfl
      | cons d below => exact effect_onDialogPress top rfl
  | submit widget =>
      refine .find_bind fun w _ _ => ?_
      rw [Step.after_get_bind]
      split
      · rename_i name hint below top
        exact effect_submitName (.submit widget) top
      · exact .quiet
  | click target =>
      cases target with
      | none => exact .quiet
      | some widget =>
          refine .find_bind fun w reached _ => ?_
          split
          · exact effect_openDialog (dialogs_eq_nil_of_reachable reached) (.help _ _)
          · exact .quiet
  | moveCursor row =>
      apply effect_withTable
      intro table below top
      rw [held_after_setDialog]
      exact .points top row
  | selectRow row =>
      apply effect_withTable
      intro table below top
      apply Effect.ofAttempt_bind
      intro selected found
      exact effect_closeAndLoad selected.name
  | call name args => exact effect_callCommand name args
  | wait => exact .of_quiet quiet_passTime

end

/-- The session after an action, whether it fails or not. -/
def Session.next (s : Session) (action : Action) : Session := (s.take action.step).2

/-- **What an action can do.** Whatever is done in the editor has one of these effects. -/
theorem effect_next (s : Session) {action : Action} (own : ∀ around, action ≠ .surround around) :
    Effect s action (s.next action).held := by
  rw [Session.next, Session.held_take]
  cases action with
  | event e => exact effect_perform e
  | fill c => exact .of_quiet (quiet_fillForm c)
  | importText content => exact .of_quiet (quiet_importText content)
  | setScript script => exact .of_quiet (quiet_setScript script)
  | surround around => exact absurd rfl (own around)

end ClusterPrep.Editor
