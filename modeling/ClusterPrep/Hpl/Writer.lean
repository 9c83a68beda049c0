import ClusterPrep.Hpl.Schema
import ClusterPrep.Text.Search
import ClusterPrep.Value.Printer

set_option autoImplicit false

/-
  Writing HPL.dat: every place with its canonical label. A single value that is missing is written
  as its default.
-/
namespace ClusterPrep.Hpl

/-- A value and its label, which begins in the fourteenth column or after the value. -/
def labelled (value label : Text) : Text := Text.padRight 12 value ++ " " ++ label

/-- The text of a value that is padded to a column: a truth value as a digit, and no list or
    table. -/
def padded : Value → Attempt Text
  | .bool b => return if b then "1" else "0"
  | v@(.list _) | v@(.table _) => throw (.unpaddable v.kindName)
  | v => v.shown

/-- The name of the output file, or the default name if none is set. -/
def outFileText (v : Value) : Attempt Text :=
  if v.isSet then padded v else padded ({} : Config).outFile

/-- The text of a single field. -/
def singleText (c : Config) (f : Single) : Attempt Text :=
  if f = .outFile then outFileText c.outFile
  else match c.single f with
    | .null => (({} : Config).single f).shown
    | v => v.shown

/-- The number of values of a list. -/
def countText (vs : List Value) : Text := Numeral.ofNat vs.length

/-- The lines of one place of the file. -/
def entryLines (c : Config) : Entry → Attempt (List Text)
  | .single f label => return [labelled (← singleText c f) label]
  | .multi f countLabel valuesLabel =>
    return [labelled (countText (c.multi f)) countLabel,
      labelled (← Value.shownAll (c.multi f)) valuesLabel]
  | .grids countLabel psLabel qsLabel =>
    return [labelled (countText c.ps) countLabel,
      labelled (← Value.shownAll c.ps) psLabel,
      labelled (← Value.shownAll c.qs) qsLabel]

/-- The HPL.dat text of a configuration. -/
def write (c : Config) : Attempt Text :=
  return Text.unlines (header ++ (← schema.mapM (entryLines c)).flatten)

end ClusterPrep.Hpl
