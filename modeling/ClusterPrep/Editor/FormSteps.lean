import ClusterPrep.Editor.Preview
import ClusterPrep.Hpl.Layout
import ClusterPrep.Hpl.Reader
import ClusterPrep.Hpl.Size

set_option autoImplicit false

/-
  What the user does with the form: enter values, fill it from a configuration, have a grid or a
  problem size suggested.
-/
namespace ClusterPrep.Editor

/-- Set the form, which is an edit. -/
def editForm (form : Form) : Step Unit := do
  setBuilder fun p => { p with form }
  noteChange .form

/-- Enter a value at a place of the form. A value equal to the one that stands there is no edit. -/
def enterAt (slot : Slot) (v : Value) : Step Unit := do
  let form := (← get).builder.form
  if !v.same (form.entry slot) then editForm (form.set slot v)

/-- Fill a place of the form; the label of a place that is left as it was. -/
def fillPlace (c : Hpl.Config) (slot : Slot) : Step (Option String) := do
  match ← Step.ofAttempt ((← get).builder.form.fillSlot c slot) with
  | .skipped => return some slot.label
  | .unchanged => return none
  | .changed form =>
    editForm form
    return none

/-- Fill places of the form; the labels of those that are left as they were. -/
def fillPlaces (c : Hpl.Config) : List Slot → Step (List String)
  | [] => return []
  | slot :: rest => do
    let skipped ← fillPlace c slot
    return skipped.toList ++ (← fillPlaces c rest)

/-- Fill the form from a configuration and say which values it could not take. -/
def fillForm (c : Hpl.Config) : Step Unit := do
  let skipped ← fillPlaces c Slot.all
  refreshBuilder
  if !skipped.isEmpty then
    setBuilderStatus
      (warning ("Unsupported codes kept at previous value: " ++ ", ".intercalate skipped))

/-- Fill the form from the text of an HPL.dat file. -/
def importText (s : Text) : Step Unit := do
  match ← Step.ofAttempt (Hpl.read s) with
  | some c => fillForm c
  | none =>
    setBuilderStatus (warning "Not an HPL.dat file (need at least 3 non-blank lines)")

/-- The number of processes and the configuration that the user has entered. -/
def Builder.entered (p : Builder) : Attempt (Int × Hpl.Config) := do
  let count ← p.processCount
  return (count, ← p.form.config)

/-- Lay the configuration out for the number of processes. -/
def suggestGrid : Step Unit := do
  let some (count, c) ← Step.orElse (← get).builder.entered reportInBuilder | return
  let laidOut ← Step.ofAttempt (c.laidOut count)
  let p ← Step.ofAttempt (Value.shownAll laidOut.ps)
  let q ← Step.ofAttempt (Value.shownAll laidOut.qs)
  enterAt (.list .ps) (.text p)
  enterAt (.list .qs) (.text q)
  refreshNearby
  refreshBuilder
  setBuilderStatus ((← Step.ofAttempt (Numeral.writeInt count)) ++ " processes → P=" ++ p ++
    ", Q=" ++ q)

/-- The memory that a text gives and the problem size for it. -/
def sizeFor (settings : Settings) (memory : Text) : Attempt (Binary64 × Number) := do
  let memory ← Numeral.readReal memory
  let n ← Hpl.suggestSize (.real memory) (.real settings.memoryRatio)
    (.int settings.blockMultiple)
  return (memory, n)

/-- Enter the problem size for the memory. -/
def suggestSize : Step Unit := do
  let s ← get
  let raw := Text.strip (← Step.ofAttempt s.builder.memory.asText)
  let refuse (_ : Failure) : Step Unit :=
    setBuilderStatus (warning ("Invalid memory size: " ++ Text.quoted raw))
  let some (memory, n) ← Step.orElse (sizeFor s.settings raw) refuse | return
  let size ← Step.ofAttempt (Value.ofNumber n).shown
  enterAt (.list .ns) (.text size)
  refreshBuilder
  setBuilderStatus ("N=" ++ size ++ " uses about " ++ s.settings.memoryRatio.percent ++ " of " ++
    memory.general 6 ++ " GB")

/-- Enter a number of processes. -/
def enterProcesses (processes : Value) : Step Unit := do
  if !processes.same (← get).builder.processes then
    setBuilder fun p => { p with processes }
    noteChange .processes

/-- Write the output to a file, refreshed just before. An output that no bytes stand for leaves the
    file empty. -/
def writeOutput (path : Files.Path) : Step Unit := do
  refreshBuilder
  if let some e := Files.pathFailure? path.text then throw e
  let s ← get
  let content := s.builder.output ++ "\n"
  let stray := Text.strayHalves? (fun _ => false) content
  match s.files.writeBytes path (if stray.isSome then [] else Text.encode content) with
  | .ok files =>
    set { s with files }
    if let some halves := stray then throw (.halves halves)
    setBuilderStatus ("Wrote " ++ path.text)
  | .error e =>
    setBuilderStatus (warning ("Could not write " ++ path.text ++ ": " ++ e.message))

/-- Write the output to the path that the user has entered; what is there already is written over
    only after a confirmation. -/
def startWriting : Step Unit := do
  let s ← get
  let raw := Text.strip (← Step.ofAttempt s.builder.path.asText)
  if raw.isEmpty then setBuilderStatus (warning "Enter an output path first")
  else
    let path ← Step.ofAttempt ((Files.Path.ofText raw).expanded s.homes)
    let there ← if (Files.pathFailure? path.text).isNone then
        Step.ofAttempt ((s.files.exists? path).mapError .file)
      else pure false
    if there then openDialog (.confirm (.overwrite path)) else writeOutput path

end ClusterPrep.Editor
