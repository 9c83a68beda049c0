import ClusterPrep.Batch.Script
import ClusterPrep.Batch.Summary
import ClusterPrep.Display.Grid
import ClusterPrep.Display.Script
import ClusterPrep.Editor.Session
import ClusterPrep.Hpl.Writer

set_option autoImplicit false

/-
  Refreshing what the panels show from what the user has entered, at once or after an edit.
-/
namespace ClusterPrep.Editor

/-- Convert the script anew and show the result and a summary of its request. -/
def refreshConverter : Step Unit := do
  let script := (← get).converter.script
  let output := Batch.convert script
  setConverter fun p => { p with output, preview := none }
  if output.isEmpty then setConverterStatus "Paste a PBS script on the left"
  else
    setConverter fun p => { p with preview := some (Display.script output) }
    setConverterStatus (← Step.ofAttempt (Batch.request script).summary)

/-- The number of processes that the user has entered. -/
def Builder.processCount (p : Builder) : Attempt Int := do
  Count.readProcesses (← p.processes.asText)

/-- The number of processes as a value that configurations are checked with. -/
def countValue : Option Int → Value
  | some n => .int n
  | none => .null

/-- Write the configuration of the form anew and check it. -/
def refreshBuilder : Step Unit := do
  let panel := (← get).builder
  let some c ← Step.orElse panel.form.config reportInBuilder | return
  let output ← Step.ofAttempt (Hpl.write c)
  setBuilder fun p => { p with output, preview := some output }
  let count ← Step.ofAttempt panel.processCount.unlessBadValue
  match ← Step.ofAttempt (Hpl.problems c (countValue count)) with
  | problem :: _ => setBuilderStatus (warning problem)
  | [] => setBuilderStatus "HPL.dat is ready"

/-- Refresh the preview of a panel. -/
def refresh : Panel → Step Unit
  | .converter => refreshConverter
  | .builder => refreshBuilder

/-- The line about the grids near a number of processes. -/
def nearbyText : Option Int → Display.Styled
  | none => {}
  | some n =>
    match Grid.nearby n with
    | [] => { plain := "No nearby process counts give a squarer grid" }
    | shapes => Display.nearby shapes

/-- Show the grids near the number of processes. -/
def refreshNearby : Step Unit := do
  let count ← Step.ofAttempt (← get).builder.processCount.unlessBadValue
  setBuilder fun p => { p with nearby := nearbyText count }

/-- The hint about a name under which a preset is to be saved. -/
def nameHint (store : Preset.Store) (name : Text) : Hint :=
  let name := Text.strip name
  if name ≠ [] ∧ name ∈ store.names then
    { text := Display.visible ("Replaces the existing preset '" ++ name ++ "'") }
  else {}

/-- Do what follows on an edit. -/
def follow : Change → Step Unit
  | .script => modify (·.schedule .converter)
  | .processes => do
    refreshNearby
    modify (·.schedule .builder)
  | .form => modify (·.schedule .builder)
  | .presetName => do
    let s ← get
    match s.dialogs with
    | .savePreset name _ :: _ =>
      setDialog (.savePreset name (nameHint s.presets (← Step.ofAttempt name.asText)))
    | _ => return

/-- Do what follows on the edits that were noted. -/
def settle : Step Unit := do
  let changes := (← get).changes
  modify fun s => { s with changes := [] }
  changes.forM follow

/-- Take a step, and then what follows on its edits. Nothing more follows once something failed. -/
def Session.take {α : Type} (s : Session) (step : Step α) : Except Failure α × Session :=
  match (do let a ← step; settle; return a : Step α).run s with
  | .ok a s => (.ok a, s)
  | .error e s => (.error e, { s with changes := [] })

/-- Let the delays of all timers pass. -/
def passTime : Step Unit := do
  let timers := (← get).timers
  modify fun s => { s with timing := s.timing.elapse }
  timers.forM fun t => refresh t.panel

end ClusterPrep.Editor
