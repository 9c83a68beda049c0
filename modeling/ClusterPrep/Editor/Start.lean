import ClusterPrep.Editor.ScriptSteps

set_option autoImplicit false

/-
  The editor as it starts.
-/
namespace ClusterPrep.Editor

/-- The form with the values of the default configuration. -/
def Form.default : Attempt Form := Form.fill {} {}

/-- The panels and dialogs before anything was refreshed. -/
def Session.blank (settings : Settings) : Attempt Session := do
  return {
    settings
    converter := { delay := settings.previewDelay }
    builder := {
      processes := .text (← Numeral.writeInt settings.processCount)
      memory := .text (settings.memory.general 6)
      form := ← Form.default } }

/-- Refresh everything, and put in the script that the editor is started with. -/
def firstRefresh (script : Text) : Step Unit := do
  refreshConverter
  refreshBuilder
  refreshNearby
  if !script.isEmpty then setScript script

/-- The editor started with a settings file and a script. -/
def Session.start (settingsFile : Option (List UInt8)) (script : Text)
    (nesting : Nesting := .usual) : Attempt Session := do
  let (settings, _) ← Settings.load settingsFile nesting
  let blank ← Session.blank settings
  let (result, s) := { blank with settingsFile, nesting }.take (firstRefresh script)
  result
  return s

end ClusterPrep.Editor
