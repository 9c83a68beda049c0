import ClusterPrep.Editor.Preview

set_option autoImplicit false

/-
  What the user does with scripts: put one in, load one from a file, take the converted one along.
-/
namespace ClusterPrep.Editor

/-- Put a text in as the script. -/
def enterScript (script : Text) : Step Unit := do
  setConverter fun p => { p with script }
  noteChange .script

/-- Put a text in as the script and convert it at once. -/
def setScript (script : Text) : Step Unit := do
  enterScript script
  refreshConverter

/-- Load the script from the file at the path that the user has entered. -/
def loadScript : Step Unit := do
  let s ← get
  let raw := Text.strip (← Step.ofAttempt s.converter.path.asText)
  if raw.isEmpty then
    setConverterStatus (warning "Enter a script path first")
  else
    let path ← Step.ofAttempt ((Files.Path.ofText raw).expanded s.homes)
    if let some e := Files.pathFailure? path.text then throw e
    match s.files.readBytes path with
    | .ok bytes => setScript (Text.unifyNewlines (Text.decodeReplacing bytes))
    | .error e =>
      setConverterStatus (warning ("Could not read " ++ path.text ++ ": " ++ e.message))

/-- Copy the converted script to the clipboard. -/
def copyScript : Step Unit := do
  let output := (← get).converter.output
  if output.isEmpty then setConverterStatus (warning "Nothing to copy")
  else
    modify fun s => { s with clipboard := some output }
    setConverterStatus "Slurm script copied to clipboard"

end ClusterPrep.Editor
