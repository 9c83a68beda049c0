import ClusterPrep.Editor.Event
import ClusterPrep.Editor.Start
import ClusterPrep.Proofs.Attempt
import ClusterPrep.Proofs.Editor.StepRules

set_option autoImplicit false

/-
  Runs of the editor: it starts with some settings and a script, and then the user and the world
  around it act in any order.
-/
namespace ClusterPrep.Editor

/-- What is around the editor and is changed by others, too. How deeply values can be nested is not
    up to the editor either: it changes with the stack that is taken. -/
structure Surroundings where
  settingsFile : Option (List UInt8)
  files : Files.Tree
  homes : Files.Homes
  presets : Preset.Store
  nesting : Nesting

/-- The session with other surroundings. -/
def Session.within (s : Session) (around : Surroundings) : Session :=
  { s with
    settingsFile := around.settingsFile
    files := around.files
    homes := around.homes
    presets := around.presets
    nesting := around.nesting }

/-- What is done to the editor: by its user, by a caller that fills the form or puts a script in,
    or around it. -/
inductive Action
  | event (e : Event)
  | fill (c : Hpl.Config)
  | importText (content : Text)
  | setScript (script : Text)
  | surround (around : Surroundings)

/-- What the editor does in answer. -/
def Action.step : Action → Step Unit
  | .event e => perform e
  | .fill c => fillForm c
  | .importText content => Editor.importText content
  | .setScript script => Editor.setScript script
  | .surround around => modify (·.within around)

/-- The sessions that are reached in runs of which no step fails. -/
inductive Reached : Session → Prop
  | start {settings : Settings} {blank s : Session} (around : Surroundings) (script : Text)
      (opened : Session.blank settings = .ok blank)
      (began : (blank.within around).take (firstRefresh script) = (.ok ⟨⟩, s)) : Reached s
  | next {s t : Session} (action : Action) (reached : Reached s)
      (done : s.take action.step = (.ok ⟨⟩, t)) : Reached t

theorem run_find {s : Session} {name : Text} {w : Widget}
    (found : s.reachable.find? (·.name == name) = some w) : (find name).run s = .ok w s := by
  rw [find, Step.run_bind_of_ok (Step.run_get s), found]
  rfl

/-- A step that was taken is the step and then what follows on its edits. -/
theorem Session.take_of_ok {α : Type} {s t : Session} {step : Step α} {a : α}
    (done : s.take step = (.ok a, t)) :
    ∃ u, step.run s = .ok a u ∧ settle.run u = .ok ⟨⟩ t := by
  rw [take] at done
  split at done
  · rename_i b v ran
    cases done
    obtain ⟨b, u, first, ran⟩ := Step.exists_of_run_bind ran
    obtain ⟨c, w, second, ran⟩ := Step.exists_of_run_bind ran
    cases ran
    exact ⟨u, first, second⟩
  · cases done

theorem Session.take_eq_of_ok {s : Session} {step : Step Unit}
    (ran : (s.take step).1.toOption = some ⟨⟩) : s.take step = (.ok ⟨⟩, (s.take step).2) := by
  rcases taken : s.take step with ⟨result, t⟩
  rw [taken] at ran
  have ended : result = .ok ⟨⟩ := Attempt.ok_of_toOption ran
  rw [ended]

/-- A step of a run that is seen not to fail leads on. -/
theorem Reached.take {s : Session} (reached : Reached s) (action : Action)
    (ran : (s.take action.step).1.toOption = some ⟨⟩) : Reached (s.take action.step).2 :=
  .next action reached (Session.take_eq_of_ok ran)

theorem Session.take_congr {α : Type} {s : Session} {step step' : Step α}
    (same : step.run s = step'.run s) : s.take step = s.take step' := by
  rw [take, take, Step.run_bind, Step.run_bind, same]

/-- The editor starts if the settings can be read, the form be filled and all be refreshed. -/
theorem exists_of_start {settingsFile : Option (List UInt8)} {script : Text} {nesting : Nesting}
    {s : Session} (started : Session.start settingsFile script nesting = .ok s) :
    ∃ settings notices blank, Settings.load settingsFile nesting = .ok (settings, notices) ∧
      Session.blank settings = .ok blank ∧
      Session.take { blank with settingsFile, nesting } (firstRefresh script) = (.ok ⟨⟩, s) := by
  obtain ⟨⟨settings, notices⟩, loaded, started⟩ := Attempt.exists_of_bind started
  obtain ⟨blank, opened, started⟩ := Attempt.exists_of_bind started
  refine ⟨settings, notices, blank, loaded, opened, ?_⟩
  rcases began : Session.take { blank with settingsFile, nesting } (firstRefresh script) with
    ⟨result, t⟩
  rw [began] at started
  cases result with
  | error e => cases started
  | ok u =>
      cases started
      rfl

/-- The editor that was started has been reached. -/
theorem reached_start {settingsFile : Option (List UInt8)} {script : Text} {nesting : Nesting}
    {s : Session} (started : Session.start settingsFile script nesting = .ok s) : Reached s := by
  obtain ⟨settings, -, blank, -, opened, began⟩ := exists_of_start started
  let around : Surroundings :=
    ⟨settingsFile, blank.files, blank.homes, blank.presets, nesting⟩
  have same : { blank with settingsFile, nesting } = blank.within around := rfl
  rw [same] at began
  exact Reached.start around script opened began

/-- The editor as it starts without a settings file and without a script. -/
def plainStart : Session := (Session.start none []).toOption.get (by decide +kernel)

theorem reached_plainStart : Reached plainStart :=
  reached_start (Attempt.ok_of_toOption (Option.some_get _).symm)

/-- The start after letters were typed in for the problem sizes. -/
def withLetters : Session := (plainStart.take (perform (.enter "hpl-ns" (.text "abc")))).2

theorem reached_withLetters : Reached withLetters := by
  rw [withLetters]
  exact reached_plainStart.take (.event (.enter "hpl-ns" (.text "abc"))) (by decide +kernel)

end ClusterPrep.Editor
