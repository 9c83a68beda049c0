import ClusterPrep.Display.Markup
import ClusterPrep.Display.Styled
import ClusterPrep.Files.Path
import ClusterPrep.Preset.Store
import ClusterPrep.Value.Printer

set_option autoImplicit false

/-
  The dialogs and what they hold while they are open.
-/
namespace ClusterPrep.Editor

/-- What the user is asked to confirm. -/
inductive Question
  | overwrite (path : Files.Path)
  | deletePreset (name : Text)
deriving DecidableEq

namespace Question

private def bold (s : Text) : Text := "[b]" ++ Display.escapeMarkup s ++ "[/b]"

/-- The words of a question, in markup. -/
def message : Question → Text
  | overwrite path => "Overwrite " ++ bold path.text ++ "?"
  | deletePreset name => "Delete preset " ++ bold name ++ "?"

/-- The words of the button that confirms. -/
def confirmLabel : Question → String
  | overwrite _ => "Overwrite"
  | deletePreset _ => "Delete"

end Question

/-- What a row of the table of presets says about a preset. -/
inductive RowContent
  | unreadable
  | readable (ns nbs grids : Text) (firstProblem : Option Text)
deriving DecidableEq

/-- A row of the table of presets. -/
structure Row where
  name : Text
  content : RowContent
deriving DecidableEq

/-- The table of presets: its rows and which of them is selected. -/
structure PresetTable where
  rows : List Row := []
  cursor : Int := 0
  status : Text := []
deriving DecidableEq

namespace PresetTable

/-- The row of a number; a negative one counts from the end. -/
def row (t : PresetTable) (number : Int) : Attempt Row :=
  let index := if number < 0 then number + t.rows.length else number
  if index < 0 then throw .noRow
  else match t.rows[index.toNat]? with
    | some row => return row
    | none => throw .noRow

/-- The name of the preset in the selected row; none of a table without rows. -/
def selected (t : PresetTable) : Attempt (Option Text) :=
  if t.rows.isEmpty then return none else return some (← t.row t.cursor).name

end PresetTable

/-- A grid, such as 2x4. -/
def gridText (grid : Value × Value) : Attempt Text := do
  return (← grid.1.shown) ++ "x" ++ (← grid.2.shown)

/-- The grids of a configuration. -/
def gridsText (c : Hpl.Config) : Attempt Text := do
  return Text.unwords (← (c.ps.zip c.qs).mapM gridText)

/-- The row for a preset. -/
def Row.ofPreset (nesting : Nesting) (store : Preset.Store) (name : Text) : Attempt Row := do
  match ← store.load name nesting with
  | (none, _) => return ⟨name, .unreadable⟩
  | (some c, _) =>
    let problems ← Hpl.problems c .null
    let ns ← Value.shownAll c.ns
    let nbs ← Value.shownAll c.nbs
    return ⟨name, .readable ns nbs (← gridsText c) problems.head?⟩

/-- The rows for some presets up to the first that fails, and its failure. -/
def rowsOf (nesting : Nesting) (store : Preset.Store) : List Text → List Row × Option Failure
  | [] => ([], none)
  | name :: rest =>
    match Row.ofPreset nesting store name with
    | .error e => ([], some e)
    | .ok row =>
      let (rows, failure) := rowsOf nesting store rest
      (row :: rows, failure)

/-- The words for a number of presets. -/
def countText (names : List Text) : Text :=
  if names.isEmpty then "No saved presets" else Numeral.ofNat names.length ++ " preset(s)"

/-- A hint below an entry. -/
structure Hint where
  text : Text := []
  isError : Bool := false
deriving DecidableEq

/-- An open dialog. -/
inductive Dialog
  | help (title body : Text)
  | importText (content : Text)
  | savePreset (name : Value) (hint : Hint)
  | loadPreset (table : PresetTable)
  | confirm (question : Question)

end ClusterPrep.Editor
