import ClusterPrep.CommandLine.Run
import ClusterPrep.Editor.Start
import ClusterPrep.Editor.View

set_option autoImplicit false

/-
  The command line program. Everything it prints and how it ends is decided by `CommandLine.run`;
  here files are read and written. When the editor starts, its first screen is drawn as plain text.
-/
namespace ClusterPrep.CommandLine

/-- The settings file, unless the environment names another. -/
def settingsPath (home : String) : String := home ++ "/.config/hpcterm/config.toml"

/-- The directory of presets, unless the environment names another. -/
def presetsPath (home : String) : String := home ++ "/.config/hpcterm/presets"

/-- Why the system could not read a file. -/
def fileErrorOf : IO.Error → FileError
  | .inappropriateType .. => .isDirectory
  | .invalidArgument .. => .nameTooLong
  | .alreadyExists .. => .alreadyExists
  | _ => .missing

/-- The bytes of a file. -/
def bytesAt (path : String) : IO (Except FileError (List UInt8)) := do
  try
    if ← (← IO.currentDir) / path |>.isDir then return .error .isDirectory
    return .ok (← IO.FS.readBinFile path).toList
  catch e => return .error (fileErrorOf e)

/-- The files in the directory of presets. -/
def storeAt (path : String) : IO Preset.Store := do
  let dir := (← IO.currentDir) / path
  if !(← dir.isDir) then return []
  let entries := (← dir.readDir).toList
  entries.filterMapM fun e => do
    match ← bytesAt e.path.toString with
    | .ok bytes => return some (Text.ofString e.fileName, bytes)
    | .error _ => return none

/-- Write the files that the directory of presets lacks. -/
def addFiles (path : String) (before after : Preset.Store) : IO Unit := do
  IO.FS.createDirAll path
  for (name, bytes) in after do
    if (before.file? name).isNone then
      IO.FS.writeBinFile ((← IO.currentDir) / path / name.string) ⟨bytes.toArray⟩

/-- All that standard input holds. -/
partial def readAll (stream : IO.FS.Stream) (start : List UInt8) : IO (List UInt8) := do
  let chunk ← stream.read 65536
  if chunk.isEmpty then return start else readAll stream (start ++ chunk.toList)

/-- The lines that a part of the screen takes. -/
def screenLines : Editor.Content → List Text
  | .text s => Text.lines s
  | .styled t => Text.lines t.plain
  | .value v => [((v.shown).toOption.getD [])]
  | .log items => items.flatMap fun t => Text.lines t.plain
  | .hint h => Text.lines h.text
  | .table t => t.rows.map fun r => Text.unwords (r.cells.map (·.plain))

/-- The first screen of the editor. -/
def firstScreen (settingsFile : Option (List UInt8)) (l : Launch) : Attempt Text := do
  let s ← Editor.Session.start settingsFile (l.script.getD [])
  return printed (s.contents.flatMap fun wc =>
    (wc.1.name ++ ":") :: (screenLines wc.2).map ("  " ++ ·))

end ClusterPrep.CommandLine

open ClusterPrep CommandLine in
/-- Run the program. -/
def main (args : List String) : IO UInt32 := do
  let home := (← IO.getEnv "HOME").getD ""
  let settingsPath := (← IO.getEnv "HPCTERM_CONFIG").getD (settingsPath home)
  let presetsPath := (← IO.getEnv "HPCTERM_PRESETS_DIR").getD (presetsPath home)
  let args := args.map Text.ofString
  let request : Request := match outcome args with
    | .run r => r
    | _ => {}
  let paths := request.convert.toList ++ request.edit.toList
  let scripts ← paths.mapM fun p => do
    return (Files.Path.ofText p, ← bytesAt p.string)
  let piped := request.grid.isNone && request.convert = some "-"
  let input ← if piped then readAll (← IO.getStdin) [] else pure []
  let settings := (← bytesAt settingsPath).toOption
  let presets ← storeAt presetsPath
  let ended : Attempt Ending := do
    let world : World := {
      readBytes := fun p => (scripts.lookup p).getD (.error .missing)
      input := ← (Text.decodeStrictly input).mapError .strayBytes
      settings
      presets }
    run world args
  match ended with
  | .error e =>
    IO.eprintln e.message.string
    return 1
  | .ok ending =>
    IO.print ending.output.string
    IO.eprint ending.errors.string
    if let some l := ending.launch then
      addFiles presetsPath presets ending.presets
      match firstScreen settings l with
      | .ok screen => IO.print screen.string
      | .error e => IO.eprintln e.message.string
    return ending.status.toUInt32
