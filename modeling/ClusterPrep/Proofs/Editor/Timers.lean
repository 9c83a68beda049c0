import ClusterPrep.Proofs.Editor.Effects
import ClusterPrep.Proofs.Editor.Followed

set_option autoImplicit false

/-
  Where timers come from. Nothing that is done in the editor touches the timers that are pending,
  nor what they are started with, but for two things: the passing of time, after which none is
  pending, and a reload, which replaces the settings. After that, each edit that was noted starts
  the timer of its panel.
-/
namespace ClusterPrep.Editor

/-! ### What timers are started with -/

/-- The settings, the delay of the converter and the timers. -/
structure Clock where
  settings : Settings
  converterDelay : Binary64
  timing : Timers

/-- The clock of a session. -/
def Session.clock (s : Session) : Clock := ⟨s.settings, s.converter.delay, s.timing⟩

namespace Clock

/-- The delay that a timer of the panel is started with. -/
def delay (clock : Clock) : Panel → Binary64
  | .converter => clock.converterDelay
  | .builder => clock.settings.previewDelay

/-- The clock with the timer of a panel started. -/
def start (clock : Clock) (panel : Panel) : Clock :=
  { clock with timing := clock.timing.restart panel (clock.delay panel) }

/-- The clock once the delays have passed. -/
def pass (clock : Clock) : Clock := { clock with timing := clock.timing.elapse }

end Clock

theorem clock_schedule (s : Session) (panel : Panel) :
    (s.schedule panel).clock = s.clock.start panel := by
  cases panel with
  | converter => rfl
  | builder => rfl

/-! ### Steps that leave the clock as it is -/

/-- The step starts and stops no timer and changes no delay, whether it fails or not. -/
abbrev Timeless {α : Type} (step : Step α) : Prop := Preserves Session.clock step

/-- The panels hold nothing of the clock but the delay of the converter. -/
theorem aside_clock : Aside Session.clock where
  converter s p same := by rw [Session.clock, same]; rfl
  builder _ _ := rfl
  changes _ _ := rfl
  clipboard _ _ := rfl

theorem timeless_openDialog (d : Dialog) : Timeless (openDialog d) :=
  Preserves.modify fun _ => rfl

theorem timeless_closeDialog : Timeless closeDialog := Preserves.modify fun _ => rfl

theorem timeless_setDialog (d : Dialog) : Timeless (setDialog d) := Preserves.modify fun _ => rfl

theorem timeless_writeOutput (path : Files.Path) : Timeless (writeOutput path) := by
  unfold writeOutput
  apply Preserves.bind aside_clock.refreshBuilder
  intro _
  dsimp only
  cases Files.pathFailure? path.text with
  | some e => exact Preserves.throw_bind e _
  | none =>
      apply Preserves.get_bind
      intro s
      cases s.files.writeBytes path _ with
      | error e => exact (aside_clock.setBuilderStatus _).same s
      | ok files =>
          cases Text.strayHalves? (fun _ => false) (s.builder.output ++ Text.ofString "\n") with
          | some halves => rfl
          | none => exact (aside_clock.setBuilderStatus _).same { s with files }

theorem timeless_startWriting : Timeless startWriting := by
  unfold startWriting
  apply Preserves.read
  intro s
  apply Preserves.bind (Preserves.ofAttempt _)
  intro raw
  apply Preserves.ite (aside_clock.setBuilderStatus _)
  apply Preserves.bind (Preserves.ofAttempt _)
  intro path
  have asked (there : Bool) : Timeless
      (if there = true then openDialog (.confirm (.overwrite path)) else writeOutput path) :=
    Preserves.ite (timeless_openDialog _) (timeless_writeOutput path)
  dsimp only
  split
  · exact Preserves.bind (Preserves.ofAttempt _) fun there => asked there
  · exact Preserves.bind (Preserves.pure false) fun there => asked there

theorem timeless_savePreset (name : Text) : Timeless (savePreset name) := by
  unfold savePreset
  apply Preserves.get_bind
  intro s
  dsimp only
  cases (do s.presets.save name (← s.builder.form.config) : Attempt _) with
  | error e =>
      unfold Step.orElse
      dsimp only
      split
      · rfl
      · rfl
  | ok saved => exact (aside_clock.setBuilderStatus _).same { s with presets := saved.1 }

theorem timeless_listPresets : Timeless listPresets := by
  unfold listPresets
  apply Preserves.read
  intro s
  split
  · dsimp only
    split
    · exact timeless_setDialog _
    · exact Preserves.bind (timeless_setDialog _) fun _ => Preserves.throw _
  · exact Preserves.pure _

theorem timeless_choosePreset : Timeless choosePreset :=
  Preserves.bind (timeless_openDialog _) fun _ => timeless_listPresets

theorem timeless_deletePreset (name : Text) : Timeless (deletePreset name) := by
  unfold deletePreset
  apply Preserves.get_bind
  intro s
  refine Step.after_ofAttempt_bind (P := fun t => t.clock = s.clock) rfl ?_
  rintro ⟨presets, there⟩ -
  exact timeless_listPresets.same { s with presets }

theorem timeless_askToDelete (table : PresetTable) : Timeless (askToDelete table) := by
  unfold askToDelete
  apply Preserves.bind (Preserves.ofAttempt _)
  intro selected
  cases selected with
  | some name => exact timeless_openDialog _
  | none => exact Preserves.pure _

theorem timeless_closeAndLoad (name : Text) : Timeless (closeAndLoad name) :=
  Preserves.bind timeless_closeDialog fun _ =>
    Preserves.ite (aside_clock.loadPreset name) (Preserves.pure _)

theorem timeless_submitName (name : Value) : Timeless (submitName name) := by
  unfold submitName
  apply Preserves.bind (Preserves.ofAttempt _)
  intro entered
  cases Preset.checkName entered with
  | ok checked => exact Preserves.bind timeless_closeDialog fun _ => timeless_savePreset checked
  | error e => exact timeless_setDialog _

theorem timeless_confirmed (question : Question) : Timeless (confirmed question) := by
  cases question with
  | overwrite path => exact timeless_writeOutput path
  | deletePreset name => exact timeless_deletePreset name

theorem timeless_onEnter (v : Value) (w : Widget) : Timeless (onEnter v w) := by
  rw [onEnter.eq_def]
  split
  · exact aside_clock.setConverter fun _ => rfl
  · exact aside_clock.enterProcesses v
  · exact aside_clock.setBuilder _
  · exact aside_clock.enterAt _ v
  · exact aside_clock.setBuilder _
  · apply Preserves.read
    intro s
    split
    · apply Preserves.ite _ (Preserves.pure _)
      exact Preserves.bind (timeless_setDialog _) fun _ => aside_clock.noteChange _
    · exact Preserves.pure _
  · exact Preserves.pure _

theorem timeless_onPaste (content : Text) (w : Widget) : Timeless (onPaste content w) := by
  rw [onPaste.eq_def]
  split
  · exact aside_clock.enterScript content
  · exact timeless_setDialog _
  · exact Preserves.pure _

theorem timeless_onPanelPress (w : Widget) : Timeless (onPanelPress w) := by
  rw [onPanelPress.eq_def]
  split
  · exact aside_clock.loadScript
  · exact aside_clock.copyScript
  · exact aside_clock.suggestGrid
  · exact aside_clock.suggestSize
  · exact timeless_openDialog _
  · exact timeless_startWriting
  · exact timeless_openDialog _
  · exact timeless_choosePreset
  · exact Preserves.pure _

theorem timeless_onDialogPress (d : Dialog) (w : Widget) : Timeless (onDialogPress d w) := by
  rw [onDialogPress.eq_def]
  split
  · exact timeless_closeDialog
  · exact Preserves.pure _
  · exact Preserves.bind timeless_closeDialog fun _ => aside_clock.importText _
  · exact timeless_submitName _
  · apply Preserves.bind (Preserves.ofAttempt _)
    intro selected
    cases selected with
    | some name => exact timeless_closeAndLoad name
    | none => exact Preserves.pure _
  · exact timeless_askToDelete _
  · exact Preserves.bind timeless_closeDialog fun _ => timeless_confirmed _
  · exact timeless_closeDialog

theorem timeless_onDialogCommand {d : Dialog} {command : Command} {step : Step Unit}
    (does : onDialogCommand d command = some step) : Timeless step := by
  rw [onDialogCommand.eq_def] at does
  split at does <;> cases does
  · exact timeless_closeDialog
  · exact timeless_closeDialog
  · exact timeless_askToDelete _

/-- All commands of the panels but the one that reloads leave the clock as it is. -/
theorem timeless_onPanelCommand {command : Command} {step : Step Unit}
    (does : onPanelCommand command = some step) (other : command ≠ .reloadSettings) :
    Timeless step := by
  cases command <;> cases does
  case loadScript => exact aside_clock.loadScript
  case copyScript => exact aside_clock.copyScript
  case suggestGrid => exact aside_clock.suggestGrid
  case suggestSize => exact aside_clock.suggestSize
  case importForm => exact timeless_openDialog _
  case writeFile => exact timeless_startWriting
  case savePreset => exact timeless_openDialog _
  case loadPreset => exact timeless_choosePreset
  case reloadSettings => exact absurd rfl other
  case switchTab tab => exact Preserves.modify fun _ => rfl

theorem timeless_find (name : Text) : Timeless (find name) := by
  unfold find
  apply Preserves.read
  intro s
  split
  · exact Preserves.pure _
  · exact Preserves.throw _

theorem timeless_withTable {f : PresetTable → Step Unit} (each : ∀ table, Timeless (f table)) :
    Timeless (withTable f) := by
  unfold withTable
  apply Preserves.read
  intro s
  split
  · exact each _
  · exact Preserves.throw _

/-! ### What is done -/

/-- The action reads the settings again, and succeeds in that. -/
inductive Reloads (s : Session) (loaded : Settings) : Action → Prop
  | call {name : Text} {notices : List Notice}
      (known : Command.ofName? name [] = some .reloadSettings) (alone : s.dialogs = [])
      (read : Settings.load s.settingsFile s.nesting = .ok (loaded, notices)) :
      Reloads s loaded (.event (.call name []))

/-- The clock after what is done itself, before anything follows on it. -/
inductive Ticks (s : Session) : Action → Clock → Prop
  | reloads {action : Action} {loaded : Settings} (reloads : Reloads s loaded action) :
      Ticks s action { s.clock with settings := loaded }
  | passes : Ticks s (.event .wait) s.clock.pass
  | stays {action : Action} (other : ∀ loaded, ¬ Reloads s loaded action)
      (busy : action ≠ .event .wait) : Ticks s action s.clock

theorem Ticks.tracked {s : Session} {action : Action} {clock : Clock}
    (ticks : Ticks s action clock) (tracked : s.timing.Tracked) : clock.timing.Tracked := by
  cases ticks with
  | reloads => exact tracked
  | passes => exact tracked.elapse
  | stays => exact tracked

section

variable {s : Session} {loaded : Settings}

theorem run_reloadSettings {notices : List Notice}
    (read : Settings.load s.settingsFile s.nesting = .ok (loaded, notices)) :
    reloadSettings.run s = .ok ⟨⟩
      { s with settings := loaded, notes := s.notes ++ ["Configuration reloaded"] } := by
  rw [reloadSettings, Step.run_bind_of_ok (Step.run_get s), read]
  rfl

/-- A command that does not reload leaves the clock as it is. -/
theorem clock_callCommand {name : Text} {args : List Value}
    (other : ∀ loaded, ¬ Reloads s loaded (.event (.call name args))) :
    ((callCommand name args).after s).clock = s.clock := by
  rw [callCommand, Step.after_get_bind]
  dsimp only
  cases known : Command.ofName? name args with
  | none => rfl
  | some command =>
      dsimp only
      cases does : onCommand s.dialogs command with
      | none => rfl
      | some step =>
          dsimp only
          split
          · rename_i plain
            cases top : s.dialogs with
            | cons d below =>
                rw [top] at does
                exact (timeless_onDialogCommand does).same s
            | nil =>
                rw [top] at does
                by_cases reload : command = .reloadSettings
                · subst reload
                  cases does
                  obtain rfl : args = [] := List.length_eq_zero_iff.mp plain
                  rw [reloadSettings, Step.after_get_bind]
                  refine Step.after_ofAttempt_bind (P := fun t => t.clock = s.clock) rfl ?_
                  rintro ⟨loaded, notices⟩ read
                  exact absurd (.call known top read) (other loaded)
                · exact (timeless_onPanelCommand does reload).same s
          · rfl

theorem clock_perform {e : Event} (busy : e ≠ .wait)
    (other : ∀ loaded, ¬ Reloads s loaded (.event e)) :
    ((perform e).after s).clock = s.clock := by
  cases e with
  | enter widget v =>
      exact (Preserves.bind (timeless_find widget) fun w => timeless_onEnter v w).same s
  | paste widget content =>
      exact (Preserves.bind (timeless_find widget) fun w => timeless_onPaste content w).same s
  | press button =>
      refine (Preserves.bind (timeless_find button) fun w => Preserves.read fun t => ?_).same s
      split
      · exact timeless_onPanelPress w
      · exact timeless_onDialogPress _ w
  | submit widget =>
      refine (Preserves.bind (timeless_find widget) fun w => Preserves.read fun t => ?_).same s
      split
      · exact timeless_submitName _
      · exact Preserves.pure _
  | click target =>
      cases target with
      | none => rfl
      | some widget =>
          refine (Preserves.bind (timeless_find widget) fun w => ?_).same s
          split
          · exact timeless_openDialog _
          · exact Preserves.pure _
  | moveCursor row => exact (timeless_withTable fun table => timeless_setDialog _).same s
  | selectRow row =>
      refine (timeless_withTable fun table => ?_).same s
      exact Preserves.bind (Preserves.ofAttempt _) fun row => timeless_closeAndLoad _
  | call name args => exact clock_callCommand other
  | wait => exact absurd rfl busy

theorem clock_passTime (s : Session) : (passTime.after s).clock = s.clock.pass := by
  rw [passTime, Step.after_get_bind, Step.after_modify_bind]
  exact (Preserves.forM fun t : Timer => aside_clock.refresh t.panel).same
    { s with timing := s.timing.elapse }

/-- Whatever is done, the clock stays as it is, or the delays pass, or the settings are replaced. -/
theorem ticks_step (s : Session) (action : Action) :
    Ticks s action (action.step.after s).clock := by
  by_cases reloading : ∃ loaded, Reloads s loaded action
  · obtain ⟨loaded, reloads⟩ := reloading
    have ticks := Ticks.reloads reloads
    obtain ⟨known, alone, read⟩ := reloads
    have ran := run_reloadSettings read
    rename_i name notices
    have after : (Action.step (.event (.call name []))).after s = reloadSettings.after s := by
      rw [Action.step, perform, callCommand, Step.after_get_bind, known, alone]
      rfl
    rw [after, Step.after_of_ok ran]
    exact ticks
  · have other : ∀ loaded, ¬ Reloads s loaded action := fun loaded reloads =>
      reloading ⟨loaded, reloads⟩
    have stays (busy : action ≠ .event .wait) (same : (action.step.after s).clock = s.clock) :
        Ticks s action (action.step.after s).clock := same.symm ▸ .stays other busy
    cases action with
    | event e =>
        by_cases waits : e = .wait
        · subst waits
          exact (clock_passTime s).symm ▸ .passes
        · exact stays (by simpa using waits) (clock_perform waits other)
    | fill c => exact stays (by simp) ((aside_clock.fillForm c).same s)
    | importText content => exact stays (by simp) ((aside_clock.importText content).same s)
    | setScript script => exact stays (by simp) ((aside_clock.setScript script).same s)
    | surround around => exact stays (by simp) rfl

end

/-! ### What follows -/

/-- The timers that are started while edits are followed, up to the first that fails: of each edit
    that of its panel, as it is pending then. -/
def Session.startedBy (s : Session) : List Change → List Timer
  | [] => []
  | c :: rest =>
    match (follow c).run s with
    | .ok _ t => t.timers.filter (fun timer => c.panel? = some timer.panel) ++ t.startedBy rest
    | .error _ _ => []

/-- The timers that are started by what follows on a step. -/
def Session.started (s : Session) (step : Step Unit) : List Timer :=
  match step.run s with
  | .ok _ t => { t with changes := [] }.startedBy t.changes
  | .error _ _ => []

/-- The timers with one in place of those of its panel. -/
def inPlace (timers : List Timer) (t : Timer) : List Timer :=
  timers.filter (·.panel ≠ t.panel) ++ [t]

/-- The clock after some timers were started one after the other, each with the delay of its panel
    and in place of the one that the panel had. -/
structure Clock.Starts (clock : Clock) (started : List Timer) (after : Clock) : Prop where
  settings : after.settings = clock.settings
  converterDelay : after.converterDelay = clock.converterDelay
  tracked : after.timing.Tracked
  pending : after.timing.pending = started.foldl inPlace clock.timing.pending
  delays : ∀ t ∈ started, t.delay = clock.delay t.panel

theorem Clock.starts_nil {clock : Clock} (tracked : clock.timing.Tracked) :
    clock.Starts [] clock where
  settings := rfl
  converterDelay := rfl
  tracked := tracked
  pending := rfl
  delays _ member := absurd member List.not_mem_nil

/-- A panel whose timer was started has that one timer. -/
theorem Clock.filter_start {clock : Clock} (tracked : clock.timing.Tracked) (panel : Panel) :
    (clock.start panel).timing.pending.filter (fun t => some panel = some t.panel) =
      [⟨panel, clock.delay panel, clock.timing.next⟩] := by
  rw [start, tracked.pending_restart]
  simp [List.filter_filter, eq_comm]

theorem Clock.Starts.cons {clock after : Clock} {panel : Panel} {started : List Timer}
    (tracked : clock.timing.Tracked) (rest : (clock.start panel).Starts started after) :
    clock.Starts (⟨panel, clock.delay panel, clock.timing.next⟩ :: started) after := by
  constructor
  · exact rest.settings
  · exact rest.converterDelay
  · exact rest.tracked
  · rw [rest.pending, start, tracked.pending_restart]
    rfl
  · intro t member
    rcases List.mem_cons.mp member with rfl | later
    · rfl
    · rw [rest.delays t later]
      cases t.panel with
      | converter => rfl
      | builder => rfl

/-- What follows on an edit fails and starts no timer, or starts that of the panel. -/
theorem follow_cases (c : Change) (s : Session) :
    (∃ e t, (follow c).run s = .error e t ∧ t.clock = s.clock) ∨
      ∃ t, (follow c).run s = .ok ⟨⟩ t ∧
        t.clock = c.panel?.elim s.clock s.clock.start := by
  cases c with
  | script => exact .inr ⟨_, rfl, clock_schedule s .converter⟩
  | form => exact .inr ⟨_, rfl, clock_schedule s .builder⟩
  | processes =>
      have kept := aside_clock.refreshNearby.same s
      cases ran : refreshNearby.run s with
      | error e t =>
          rw [Step.after_of_error ran] at kept
          exact .inl ⟨e, t, Step.run_bind_of_error ran, kept⟩
      | ok u t =>
          rw [Step.after_of_ok ran] at kept
          refine .inr ⟨t.schedule .builder, Step.run_bind_of_ok ran, ?_⟩
          rw [clock_schedule, kept]
          rfl
  | presetName =>
      have kept : Timeless (follow .presetName) := by
        apply Preserves.read
        intro t
        split
        · exact Preserves.bind (Preserves.ofAttempt _) fun _ => timeless_setDialog _
        · exact Preserves.pure _
      have kept := kept.same s
      cases ran : (follow .presetName).run s with
      | error e t =>
          rw [Step.after_of_error ran] at kept
          exact .inl ⟨e, t, rfl, kept⟩
      | ok u t =>
          rw [Step.after_of_ok ran] at kept
          exact .inr ⟨t, rfl, kept⟩

/-- The timers that were started are all that changes while edits are followed. -/
theorem starts_followed (changes : List Change) {s : Session} (tracked : s.timing.Tracked) :
    s.clock.Starts (s.startedBy changes) ((changes.forM follow).after s).clock := by
  induction changes generalizing s with
  | nil => exact Clock.starts_nil tracked
  | cons c rest ih =>
      change s.clock.Starts _ ((do follow c; rest.forM follow : Step PUnit).after s).clock
      rw [Session.startedBy]
      rcases follow_cases c s with ⟨e, t, ran, kept⟩ | ⟨t, ran, moved⟩
      · rw [Step.after_bind_of_error ran, ran, kept]
        exact Clock.starts_nil tracked
      · rw [Step.after_bind_of_ok ran, ran]
        dsimp only
        have timing : t.timing = t.clock.timing := rfl
        cases panel : c.panel? with
        | none =>
            rw [panel] at moved
            have same : t.clock = s.clock := moved
            have next := ih (s := t) (by rw [timing, same]; exact tracked)
            have none : t.timers.filter (fun timer => Option.none = some timer.panel) = [] := by
              simp
            rw [same] at next
            rwa [none, List.nil_append]
        | some p =>
            rw [panel] at moved
            have started : t.clock = s.clock.start p := moved
            have next := ih (s := t) (by
              rw [timing, started]
              exact tracked.restart p (s.clock.delay p))
            have own := Clock.filter_start (show s.clock.timing.Tracked from tracked) p
            rw [← started] at own
            rw [started] at next
            have timers : t.timers = t.clock.timing.pending := rfl
            rw [timers, own]
            exact next.cons tracked

/-- What follows on a step starts timers, each with the delay that the clock gives its panel after
    the step, and changes nothing else of the clock. -/
theorem starts_take {s : Session} {step : Step Unit}
    (tracked : (step.after s).timing.Tracked) :
    (step.after s).clock.Starts (s.started step) (s.take step).2.clock := by
  rw [Session.take, Session.started]
  cases ran : step.run s with
  | error e t =>
      rw [Step.after_of_error ran] at tracked ⊢
      rw [Step.run_bind_of_error ran]
      exact Clock.starts_nil tracked
  | ok u t =>
      rw [Step.after_of_ok ran] at tracked ⊢
      rw [Step.run_bind_of_ok ran]
      have starts := starts_followed t.changes (s := { t with changes := [] }) tracked
      have settling : settle.run t = (t.changes.forM follow).run { t with changes := [] } := by
        rw [settle, Step.run_bind_of_ok (Step.run_get t)]
        exact Step.run_bind_of_ok (Step.run_modify _ t)
      cases followed : (t.changes.forM follow).run { t with changes := [] } with
      | error e v =>
          rw [Step.run_bind_of_error (settling.trans followed)]
          rw [Step.after_of_error followed] at starts
          exact starts
      | ok u v =>
          rw [Step.run_bind_of_ok (settling.trans followed)]
          rw [Step.after_of_ok followed] at starts
          exact starts

/-- **Where timers come from.** After any action, whether it failed or not, the timers are those of
    before, or none once the delays have passed, with those that the action started. -/
theorem exists_starts_next {s : Session} (tracked : s.timing.Tracked) (action : Action) :
    ∃ clock, Ticks s action clock ∧
      clock.Starts (s.started action.step) (s.next action).clock :=
  have ticks := ticks_step s action
  ⟨(action.step.after s).clock, ticks, starts_take (ticks.tracked tracked)⟩

end ClusterPrep.Editor
