import ClusterPrep.Editor.Dialog
import ClusterPrep.Editor.Form
import ClusterPrep.Editor.Timer
import ClusterPrep.Files.Tree
import ClusterPrep.Settings.Loader

set_option autoImplicit false

/-
  The state of the running editor and the steps that change it. A step that fails keeps what it has
  changed before.
-/
namespace ClusterPrep.Editor

/-- The panel that converts scripts. The user types texts into its lines; a line holds whatever
    value was put there. Its delay is the one that the editor was started with. -/
structure Converter where
  delay : Binary64
  path : Value := .text []
  script : Text := []
  output : Text := []
  preview : Option Display.Styled := none
  status : Text := []

/-- The panel that builds HPL.dat. A line holds whatever value was put there. -/
structure Builder where
  processes : Value
  memory : Value
  form : Form
  path : Value := .text "HPL.dat"
  nearby : Display.Styled := {}
  output : Text := []
  preview : Option Text := none
  status : Text := []

/-- An edit that something has to follow on. -/
inductive Change
  | script
  | processes
  | form
  | presetName
deriving DecidableEq, Repr

/-- The running editor. The top dialog comes first. -/
structure Session where
  settings : Settings
  settingsFile : Option (List UInt8) := none
  files : Files.Tree := .bare
  homes : Files.Homes := [("", ⟨1, ["root"]⟩), ("root", ⟨1, ["root"]⟩)]
  presets : Preset.Store := []
  nesting : Nesting := .usual
  converter : Converter
  builder : Builder
  dialogs : List Dialog := []
  timing : Timers := {}
  changes : List Change := []
  clipboard : Option Text := none
  notes : List String := []
  tab : Value := .text "converter"

/-- A step of the editor. -/
abbrev Step := EStateM Failure Session

namespace Step

@[simp] theorem run_pure {α : Type} (a : α) (s : Session) :
    (pure a : Step α).run s = .ok a s := rfl

@[simp] theorem run_throw {α : Type} (e : Failure) (s : Session) :
    (throw e : Step α).run s = .error e s := rfl

@[simp] theorem run_get (s : Session) : (get : Step Session).run s = .ok s s := rfl

@[simp] theorem run_set (t s : Session) : (set t : Step PUnit).run s = .ok ⟨⟩ t := rfl

@[simp] theorem run_modify (f : Session → Session) (s : Session) :
    (modify f : Step PUnit).run s = .ok ⟨⟩ (f s) := rfl

/-- A step goes on from where the one before it ended, and stops where that one failed. -/
theorem run_bind {α β : Type} (x : Step α) (f : α → Step β) (s : Session) :
    (x >>= f).run s = match x.run s with
      | .ok a t => (f a).run t
      | .error e t => .error e t := by
  show EStateM.bind x f s = _
  simp only [EStateM.bind, EStateM.run]
  cases x s <;> rfl

theorem run_bind_of_ok {α β : Type} {x : Step α} {f : α → Step β} {s t : Session} {a : α}
    (h : x.run s = .ok a t) : (x >>= f).run s = (f a).run t := by
  rw [run_bind, h]

theorem run_bind_of_error {α β : Type} {x : Step α} {f : α → Step β} {s t : Session} {e : Failure}
    (h : x.run s = .error e t) : (x >>= f).run s = .error e t := by
  rw [run_bind, h]

end Step

/-- A step from a computation that only reads. -/
def Step.ofAttempt {α : Type} : Attempt α → Step α
  | .ok a => pure a
  | .error e => throw e

/-- The value of a computation; over a bad value, what is to be done instead. -/
def Step.orElse {α : Type} (x : Attempt α) (instead : Failure → Step Unit) : Step (Option α) :=
  match x with
  | .ok a => return some a
  | .error e =>
    if e.kind = .badValue then do
      instead e
      return none
    else throw e

/-- Change the panel that converts. -/
def setConverter (f : Converter → Converter) : Step Unit :=
  modify fun s => { s with converter := f s.converter }

/-- Change the panel that builds. -/
def setBuilder (f : Builder → Builder) : Step Unit :=
  modify fun s => { s with builder := f s.builder }

/-- Note an edit. -/
def noteChange (c : Change) : Step Unit :=
  modify fun s => { s with changes := s.changes ++ [c] }

/-- A status line: its text is set off by a blank. -/
def statusText (message : Text) : Text := Display.visible (' ' :: message)

/-- The status line for a failure or a refusal. -/
def warning (message : Text) : Text := "! " ++ message

/-- Set the status line of the panel that converts. -/
def setConverterStatus (message : Text) : Step Unit :=
  setConverter fun p => { p with status := statusText message }

/-- Set the status line of the panel that builds. -/
def setBuilderStatus (message : Text) : Step Unit :=
  setBuilder fun p => { p with status := statusText message }

/-- Say in the builder's status line what failed. -/
def reportInBuilder (e : Failure) : Step Unit := setBuilderStatus (warning e.message)

/-- The timers that are pending. -/
def Session.timers (s : Session) : List Timer := s.timing.pending

/-- Have a panel's preview refreshed after its delay. -/
def Session.schedule (s : Session) (panel : Panel) : Session :=
  let delay := match panel with
    | .converter => s.converter.delay
    | .builder => s.settings.previewDelay
  { s with timing := s.timing.restart panel delay }

/-- Open a dialog on top of the others. -/
def openDialog (d : Dialog) : Step Unit := modify fun s => { s with dialogs := d :: s.dialogs }

/-- Close the top dialog. -/
def closeDialog : Step Unit := modify fun s => { s with dialogs := s.dialogs.tail }

/-- Change what the top dialog holds. -/
def setDialog (d : Dialog) : Step Unit :=
  modify fun s => { s with dialogs := d :: s.dialogs.tail }

end ClusterPrep.Editor
