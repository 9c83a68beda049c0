import ClusterPrep.Editor.FormSteps

set_option autoImplicit false

/-
  What the user does with presets: save the form under a name, choose one to load, delete one.
-/
namespace ClusterPrep.Editor

/-- Save the form as a preset. -/
def savePreset (name : Text) : Step Unit := do
  let s ← get
  let saved : Attempt (Preset.Store × Text) := do s.presets.save name (← s.builder.form.config)
  let some (presets, _) ← Step.orElse saved reportInBuilder | return
  set { s with presets }
  setBuilderStatus ("Preset '" ++ name ++ "' saved")

/-- Fill the form from a preset. -/
def loadPreset (name : Text) : Step Unit := do
  let s ← get
  match ← Step.ofAttempt (s.presets.load name s.nesting) with
  | (some c, _) =>
    fillForm c
    setBuilderStatus ("Preset '" ++ name ++ "' loaded")
  | (none, _) => setBuilderStatus (warning ("Preset '" ++ name ++ "' could not be loaded"))

/-- Show all presets in the table of the top dialog. When a row fails, those above it stay. -/
def listPresets : Step Unit := do
  let s ← get
  match s.dialogs with
  | .loadPreset table :: _ =>
    let names := s.presets.names
    match rowsOf s.nesting s.presets names with
    | (rows, none) => setDialog (.loadPreset ⟨rows, 0, countText names⟩)
    | (rows, some e) =>
      setDialog (.loadPreset ⟨rows, 0, table.status⟩)
      throw e
  | _ => return

/-- Let the user choose a preset to load. -/
def choosePreset : Step Unit := do
  openDialog (.loadPreset {})
  listPresets

/-- Delete a preset and show those that are left. -/
def deletePreset (name : Text) : Step Unit := do
  let s ← get
  let (presets, _) ← Step.ofAttempt (s.presets.delete name)
  set { s with presets }
  listPresets

/-- Ask whether the selected preset is to be deleted. -/
def askToDelete (table : PresetTable) : Step Unit := do
  match ← Step.ofAttempt table.selected with
  | some name => openDialog (.confirm (.deletePreset name))
  | none => return

/-- Close the top dialog and load the preset that was chosen in it. -/
def closeAndLoad (name : Text) : Step Unit := do
  closeDialog
  if !name.isEmpty then loadPreset name

/-- Close the top dialog, where a name was entered, and save under the name; a text that is no name
    is refused there. -/
def submitName (name : Value) : Step Unit := do
  match Preset.checkName (← Step.ofAttempt name.asText) with
  | .ok checked =>
    closeDialog
    savePreset checked
  | .error e => setDialog (.savePreset name ⟨Display.visible e.message, true⟩)

/-- Do what the user has confirmed. -/
def confirmed : Question → Step Unit
  | .overwrite path => writeOutput path
  | .deletePreset name => deletePreset name

end ClusterPrep.Editor
