import ClusterPrep.Batch.Script
import ClusterPrep.CommandLine.GridReport
import ClusterPrep.CommandLine.Options
import ClusterPrep.Files.Tree
import ClusterPrep.Preset.Builtin
import ClusterPrep.Settings.Loader

set_option autoImplicit false

/-
  The command line program: what it prints, how it ends, and with what the editor starts if it
  does.
-/
namespace ClusterPrep.CommandLine

/-- The program's name. -/
def program : Text := "hpcterm"

def version : Text := "0.1.0"

/-- The line that shows how the program is called. -/
def usage : Text :=
  "usage: " ++ program ++ " [-h] [--version] [--convert PATH] [--grid N] [--open PATH]"

/-- What the program says about itself. -/
def helpLines : List Text := [
  usage,
  "",
  "HPCTerm — PBS→Slurm converter and HPL.dat builder",
  "",
  "options:",
  "  -h, --help      show this help message and exit",
  "  --version       show program's version number and exit",
  "  --convert PATH  Print the Slurm translation of a PBS script ('-' for stdin)",
  "                  and exit",
  "  --grid N        Print the P x Q grid suggestion for N processes and exit",
  "  --open PATH     Start the TUI with a PBS script loaded in the converter"]

/-- What the program is started in: files, standard input, the settings file and the presets. -/
structure World where
  readBytes : Files.Path → Except FileError (List UInt8) := fun _ => .error .missing
  input : Text := []
  settings : Option (List UInt8) := none
  presets : Preset.Store := []
  nesting : Nesting := .usual

/-- With what the editor starts. -/
structure Launch where
  script : Option Text
  settings : Settings

/-- What the program comes to. -/
structure Ending where
  status : Nat := 0
  output : Text := []
  errors : Text := []
  launch : Option Launch := none
  presets : Preset.Store := []

/-- Lines, each ended by a line feed. -/
def printed (lines : List Text) : Text := lines.flatMap (· ++ "\n")

/-- The ending when the command line is refused. -/
def refused (e : UsageError) : Ending :=
  { status := 2, errors := printed [usage, program ++ ": error: " ++ e.message] }

/-- The text of a script file, line ends unified. -/
def World.readScript (w : World) (path : Text) : Attempt (Except FileError Text) :=
  match Files.pathFailure? path with
  | some e => throw e
  | none =>
    match w.readBytes (.ofText path) with
    | .error e => return .error e
    | .ok bytes =>
      match Text.decodeStrictly bytes with
      | .error stray => throw (.strayBytes stray)
      | .ok script => return .ok (Text.unifyNewlines script)

/-- The ending when a script cannot be read. -/
def unreadable (path : Text) (e : FileError) : Ending :=
  { status := 1, errors := printed ["error: cannot read " ++ path ++ ": " ++ e.message] }

/-- Start the editor with a script. -/
def launch (w : World) (script : Option Text) : Attempt Ending := do
  let (settings, _) ← Settings.load w.settings w.nesting
  let presets ← w.presets.seed
  return { launch := some ⟨script, settings⟩, presets }

/-- Carry out what the command line asks for: a grid, a conversion, or the editor. -/
def perform (w : World) (r : Request) : Attempt Ending := do
  match r.grid, r.convert.getD [], r.edit.getD [] with
  | some .lacking, _, _ => throw (.unordered "<" "list" "int")
  | some (.given n), _, _ => return { output := printed (← gridReport n) }
  | none, path@(_ :: _), _ =>
    if path = "-" then
      return { output := printed [Batch.convert (Text.unifyNewlines w.input)] }
    match ← w.readScript path with
    | .ok script => return { output := printed [Batch.convert script] }
    | .error e => return unreadable path e
  | none, [], path@(_ :: _) =>
    match ← w.readScript path with
    | .ok script => launch w (some script)
    | .error e => return unreadable path e
  | none, [], [] => launch w none

/-- Run the program with some arguments. -/
def run (w : World) (args : List Text) : Attempt Ending :=
  match outcome args with
  | .showHelp => return { output := printed helpLines }
  | .showVersion => return { output := printed [program ++ " " ++ version] }
  | .refuse e => return refused e
  | .run r => perform w r

end ClusterPrep.CommandLine
