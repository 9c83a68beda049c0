import ClusterPrep.Hpl.Schema
import ClusterPrep.Hpl.Token

set_option autoImplicit false

/-
  Reading HPL.dat. Blank lines and indentation do not count. The header is passed over, and then
  every place of the file takes its lines from the front; once the lines have run out, a single
  value is missing and a list is empty.
-/
namespace ClusterPrep.Hpl

/-- The lines of a text that are not blank, without the blanks around them. -/
def usableLines (s : Text) : List Text :=
  ((Text.lines s).map Text.strip).filter fun l => !l.isEmpty

/-- The first word of the next line, if there is a line, and the lines after it. -/
def nextWord : List Text → Option Text × List Text
  | [] => (none, [])
  | l :: rest => ((Text.words l).head?, rest)

/-- The count on the next line. -/
def nextCount (ls : List Text) : Attempt (Nat × List Text) :=
  match nextWord ls with
  | (none, rest) => return (0, rest)
  | (some w, rest) => return (← countValue w, rest)

/-- At most `count` values from the next line. -/
def nextValues (count : Nat) : List Text → Attempt (List Value × List Text)
  | [] => return ([], [])
  | l :: rest => return (← ((Text.words l).take count).mapM tokenValue, rest)

/-- The value of the next line for a single field: the name of the output file as it is, a number
    for every other field, nothing if there is no line. -/
def nextSingle (f : Single) (ls : List Text) : Attempt (Value × List Text) :=
  match nextWord ls with
  | (none, rest) => return (.null, rest)
  | (some w, rest) =>
    if f = .outFile then return (.text w, rest) else return (← numberValue w, rest)

/-- Fill one place of the file from the lines. -/
def readEntry (c : Config) (ls : List Text) : Entry → Attempt (Config × List Text)
  | .single f _ => do
    let (v, ls) ← nextSingle f ls
    return (c.setSingle v f, ls)
  | .multi f _ _ => do
    let (count, ls) ← nextCount ls
    let (vs, ls) ← nextValues count ls
    return (c.setMulti vs f, ls)
  | .grids _ _ _ => do
    let (count, ls) ← nextCount ls
    let (ps, ls) ← nextValues count ls
    let (qs, ls) ← nextValues count ls
    return ((c.setMulti ps .ps).setMulti qs .qs, ls)

/-- Fill places of the file, one after the other. -/
def readEntries : List Entry → Config → List Text → Attempt Config
  | [], c, _ => return c
  | e :: rest, c, ls => do
    let (c, ls) ← readEntry c ls e
    readEntries rest c ls

/-- The content of an HPL.dat text; nothing if it has fewer than three lines that are not blank. -/
def read (s : Text) : Attempt (Option Config) :=
  let ls := usableLines s
  if ls.length < 3 then return none
  else return some (← readEntries schema {} (ls.drop header.length))

end ClusterPrep.Hpl
