import ClusterPrep.Proofs.Editor.Suggesting
import ClusterPrep.Proofs.Editor.Timers

set_option autoImplicit false

/-
  What comes of reading the settings again. From then on the builder goes by the new ones: in the
  delay of its preview, and in the share of the memory and the multiple that problem sizes are
  suggested with. The converter keeps the delay that the editor was started with.
-/
namespace ClusterPrep.Editor

/-! ### Runs -/

/-- The sessions of runs that begin with some settings. Anything may be done in them and around the
    editor, and what fails leaves what it has changed. -/
inductive Visited (first : Settings) : Session → Prop
  | start {blank s : Session} (around : Surroundings) (script : Text)
      (opened : Session.blank first = .ok blank)
      (began : (blank.within around).take (firstRefresh script) = (.ok ⟨⟩, s)) : Visited first s
  | next {s : Session} (action : Action) (visited : Visited first s) : Visited first (s.next action)

theorem visited_of_start {settingsFile : Option (List UInt8)} {script : Text} {nesting : Nesting}
    {first : Settings} {notices : List Notice} {s : Session}
    (started : Session.start settingsFile script nesting = .ok s)
    (read : Settings.load settingsFile nesting = .ok (first, notices)) : Visited first s := by
  obtain ⟨settings, notices', blank, loaded, opened, began⟩ := exists_of_start started
  cases read.symm.trans loaded
  exact .start ⟨settingsFile, blank.files, blank.homes, blank.presets, nesting⟩ script opened
    began

/-- The sessions from when some settings are loaded in place of others until a reload after that. -/
inductive SinceReload (first loaded : Settings) : Session → Prop
  | reloaded {s : Session} {action : Action} (visited : Visited first s)
      (reloads : Reloads s loaded action) : SinceReload first loaded (s.next action)
  | next {s : Session} {action : Action} (since : SinceReload first loaded s)
      (other : ∀ settings, ¬ Reloads s settings action) : SinceReload first loaded (s.next action)

/-! ### Delays and settings over a run -/

/-- What is loaded depends on the settings file only. -/
theorem Reloads.unique {s : Session} {loaded loaded' : Settings} {action : Action}
    (reloads : Reloads s loaded action) (reloads' : Reloads s loaded' action) :
    loaded = loaded' := by
  obtain ⟨-, -, read⟩ := reloads
  cases reloads' with
  | call _ _ read' =>
      cases read.symm.trans read'
      rfl

theorem clock_of_blank {settings : Settings} {s : Session}
    (opened : Session.blank settings = .ok s) :
    s.clock = ⟨settings, settings.previewDelay, {}⟩ := by
  obtain ⟨processes, -, opened⟩ := Attempt.exists_of_bind opened
  obtain ⟨form, -, opened⟩ := Attempt.exists_of_bind opened
  cases opened
  rfl

section

variable {first loaded : Settings} {s : Session}

/-- The editor begins without timers; the first refresh starts some. -/
theorem starts_of_blank {blank : Session} {around : Surroundings} {script : Text}
    (opened : Session.blank first = .ok blank)
    (began : (blank.within around).take (firstRefresh script) = (.ok ⟨⟩, s)) :
    ∃ started, Clock.Starts ⟨first, first.previewDelay, {}⟩ started s.clock := by
  have within : (blank.within around).clock = blank.clock := rfl
  have clock : ((firstRefresh script).after (blank.within around)).clock =
      ⟨first, first.previewDelay, {}⟩ := by
    rw [(aside_clock.firstRefresh script).same, within, clock_of_blank opened]
  have empty : ((firstRefresh script).after (blank.within around)).timing = {} :=
    congrArg Clock.timing clock
  have tracked : ((firstRefresh script).after (blank.within around)).timing.Tracked := by
    rw [empty]
    exact Timers.tracked_empty
  have starts := starts_take tracked
  rw [clock, began] at starts
  exact ⟨_, starts⟩

/-- In every run the panels keep track of their timers. -/
theorem Visited.tracked (visited : Visited first s) : s.timing.Tracked := by
  induction visited with
  | start around script opened began =>
      obtain ⟨started, starts⟩ := starts_of_blank opened began
      exact starts.tracked
  | next action visited ih =>
      obtain ⟨clock, -, starts⟩ := exists_starts_next ih action
      exact starts.tracked

/-- No action changes the delay of the converter. -/
theorem converterDelay_next (tracked : s.timing.Tracked) (action : Action) :
    (s.next action).converter.delay = s.converter.delay := by
  obtain ⟨clock, ticks, starts⟩ := exists_starts_next tracked action
  have kept : (s.next action).converter.delay = clock.converterDelay := starts.converterDelay
  rw [kept]
  cases ticks with
  | reloads => rfl
  | passes => rfl
  | stays => rfl

/-- The settings are those that were loaded last. -/
theorem settings_next (tracked : s.timing.Tracked) (action : Action) :
    (∀ settings, Reloads s settings action → (s.next action).settings = settings) ∧
      ((∀ settings, ¬ Reloads s settings action) → (s.next action).settings = s.settings) := by
  obtain ⟨clock, ticks, starts⟩ := exists_starts_next tracked action
  have kept : (s.next action).settings = clock.settings := starts.settings
  rw [kept]
  cases ticks with
  | reloads reloads =>
      exact ⟨fun settings reloads' => reloads.unique reloads',
        fun other => absurd reloads (other _)⟩
  | passes => exact ⟨fun settings reloads => (nomatch reloads), fun _ => rfl⟩
  | stays other => exact ⟨fun settings reloads => absurd reloads (other _), fun _ => rfl⟩

/-- The converter keeps the delay that the editor was started with. -/
theorem Visited.converterDelay (visited : Visited first s) :
    s.converter.delay = first.previewDelay := by
  induction visited with
  | start around script opened began =>
      obtain ⟨started, starts⟩ := starts_of_blank opened began
      exact starts.converterDelay
  | next action visited ih => rw [converterDelay_next visited.tracked, ih]

theorem SinceReload.visited (since : SinceReload first loaded s) : Visited first s := by
  induction since with
  | reloaded visited reloads => exact .next _ visited
  | next since other ih => exact .next _ ih

theorem SinceReload.settings (since : SinceReload first loaded s) : s.settings = loaded := by
  induction since with
  | reloaded visited reloads => exact (settings_next visited.tracked _).1 _ reloads
  | next since other ih => rw [(settings_next since.visited.tracked _).2 other, ih]

/-! ### What takes effect -/

/-- The timers that are left over when an action is taken. -/
def Session.timersLeft (s : Session) : Action → List Timer
  | .event .wait => []
  | _ => s.timers

/-- **What a reload brings about.** Until the next one, the timers are those that actions start. The
    ones of the builder have the delay that was loaded. Those of the converter have it if it is the
    one that the editor was started with, and not otherwise. Problem sizes are suggested with the
    share of the memory and the multiple that were loaded. -/
theorem sinceReload_takesEffect_iff (since : SinceReload first loaded s) {action : Action}
    (other : ∀ settings, ¬ Reloads s settings action) :
    (s.next action).timers = (s.started action.step).foldl inPlace (s.timersLeft action) ∧
    (∀ t ∈ s.started action.step, t.delay = loaded.previewDelay ↔
      t.panel = .builder ∨ first.previewDelay = loaded.previewDelay) ∧
    (RequestsSize s action →
      Suggests s loaded.memoryRatio loaded.blockMultiple (s.take action.step).1
        (s.next action)) := by
  obtain ⟨clock, ticks, starts⟩ := exists_starts_next since.visited.tracked action
  have loadedBefore := since.settings
  have keptBefore := since.visited.converterDelay
  have delay (panel : Panel) : clock.delay panel = s.clock.delay panel := by
    cases ticks with
    | reloads reloads => exact absurd reloads (other _)
    | passes => cases panel <;> rfl
    | stays => rfl
  refine ⟨?_, fun t member => ?_, fun requests => ?_⟩
  · have left : clock.timing.pending = s.timersLeft action := by
      cases ticks with
      | reloads reloads => exact absurd reloads (other _)
      | passes => rfl
      | stays _ busy =>
          rw [Session.timersLeft.eq_def]
          split
          · exact absurd rfl busy
          · rfl
    rw [← left]
    exact starts.pending
  · rw [starts.delays t member, delay]
    cases t.panel with
    | converter =>
        change s.converter.delay = loaded.previewDelay ↔ _
        rw [keptBefore]
        exact ⟨.inr, fun same => same.resolve_left nofun⟩
    | builder =>
        change s.settings.previewDelay = loaded.previewDelay ↔ _
        rw [loadedBefore]
        exact ⟨fun _ => .inl rfl, fun _ => rfl⟩
  · have suggests := suggests_suggestSize s
    rw [loadedBefore, ← Session.take_congr requests.run] at suggests
    exact suggests

end

/-- A settings file with a longer delay and a smaller share of the memory. -/
def slowFile : List UInt8 :=
  Text.encode "[ui]\npreview_debounce = 1.0\n[hpl]\nmemory_ratio = 0.5\n"

/-- The settings that it gives. -/
def slow : Settings := { previewDelay := .ofInt 1, memoryRatio := .ofDecimal false 5 (-1) }

/-- The start after the file was put where the settings are read from. -/
def beforeReload : Session :=
  plainStart.next
    (.surround
      ⟨some slowFile, plainStart.files, plainStart.homes, plainStart.presets, plainStart.nesting⟩)

/-- The same after the settings were read again. -/
def slowed : Session := beforeReload.next (.event (.call "reload_config" []))

theorem visited_plainStart : Visited {} plainStart :=
  visited_of_start (Attempt.ok_of_toOption (Option.some_get _).symm) rfl

theorem visited_beforeReload : Visited {} beforeReload := by
  rw [beforeReload]
  exact visited_plainStart.next _

theorem sinceReload_slowed : SinceReload {} slow slowed := by
  have found : beforeReload.dialogs.isEmpty = true ∧
      (Settings.load beforeReload.settingsFile beforeReload.nesting).toOption.map Prod.fst =
        some slow := by
    decide +kernel
  obtain ⟨closed, read⟩ := found
  obtain ⟨⟨settings, notices⟩, read, same⟩ := Option.map_eq_some_iff.mp read
  obtain rfl : settings = slow := same
  have known : Command.ofName? "reload_config" [] = some .reloadSettings := rfl
  have reloads : Reloads beforeReload slow (.event (.call "reload_config" [])) :=
    .call known (List.isEmpty_iff.mp closed) (Attempt.ok_of_toOption read)
  rw [slowed]
  exact .reloaded visited_beforeReload reloads

/-- The user asks for a problem size, which is an edit of the form. -/
def sizeRequest : Action := .event (.press "btn-suggest-n")

theorem sinceReload_takesEffect_iff_slowed :
    SinceReload {} slow slowed ∧ RequestsSize slowed sizeRequest ∧
      (slowed.started sizeRequest.step).map Timer.panel = [.builder] ∧
      (∀ t ∈ slowed.started sizeRequest.step, t.panel = .builder → t.delay = slow.previewDelay) ∧
      Suggests slowed slow.memoryRatio slow.blockMultiple (slowed.take sizeRequest.step).1
        (slowed.next sizeRequest) := by
  have found : slowed.dialogs.isEmpty = true ∧
      (slowed.started sizeRequest.step).map Timer.panel = [.builder] := by
    decide +kernel
  obtain ⟨closed, started⟩ := found
  have other : ∀ settings, ¬ Reloads slowed settings sizeRequest := by
    intro settings reloads
    cases reloads
  have requests : RequestsSize slowed sizeRequest := .press (List.isEmpty_iff.mp closed)
  obtain ⟨-, delays, suggests⟩ := sinceReload_takesEffect_iff sinceReload_slowed other
  exact ⟨sinceReload_slowed, requests, started,
    fun t member panel => (delays t member).mpr (.inl panel), suggests requests⟩

/-- A script is pasted after the reload. The timer that this starts does not have the delay that was
    loaded. -/
theorem not_takesEffect_slowed :
    SinceReload {} slow slowed ∧
      (∀ settings, ¬ Reloads slowed settings (.event (.paste "pbs-input" "#PBS -N one"))) ∧
      ¬ ∀ t ∈ slowed.started (Action.event (.paste "pbs-input" "#PBS -N one")).step,
        t.delay = slow.previewDelay := by
  refine ⟨sinceReload_slowed, fun settings reloads => (nomatch reloads), ?_⟩
  decide +kernel

end ClusterPrep.Editor
