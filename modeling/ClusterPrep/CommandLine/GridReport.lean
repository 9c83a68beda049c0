import ClusterPrep.Grid.Nearby
import ClusterPrep.Number.Shortest
import ClusterPrep.Text.Search

set_option autoImplicit false

/-
  The grid for a number of processes and the grids near it, as a table in box characters.
-/
namespace ClusterPrep.CommandLine

/-- The width of a column: that of its widest cell. -/
def columnWidth (cells : List Text) : Nat := cells.foldl (fun w c => max w c.length) 0

/-- The corners and lines of one row of a frame. -/
structure Rule where
  left : CodePoint
  line : CodePoint
  cross : CodePoint
  right : CodePoint

/-- A rule across columns of some widths, each with a blank on either side. -/
def Rule.text (r : Rule) (widths : List Nat) : Text :=
  r.left :: Text.joinWith [r.cross] (widths.map fun w => Text.copies (w + 2) r.line) ++ [r.right]

/-- A row of cells, set to the right, between bars. -/
def rowText (bar : CodePoint) (widths : List Nat) (cells : List Text) : Text :=
  bar :: Text.joinWith [bar] ((widths.zip cells).map fun wc =>
    " " ++ Text.padLeft wc.1 wc.2 ++ " ") ++ [bar]

/-- A text in the middle of a line of some width. -/
def centred (width : Nat) (s : Text) : Text :=
  let left := (width - s.length) / 2
  Text.padRight width (Text.copies left ' ' ++ s)

/-- A table: title, headings and rows. -/
def tableText (title : Text) (headings : List Text) (rows : List (List Text)) : List Text :=
  let widths := headings.zipIdx.map fun hi =>
    columnWidth (hi.1 :: rows.map fun r => r.getD hi.2 [])
  let top := Rule.text ⟨'┏', '━', '┳', '┓'⟩ widths
  [centred top.length title, top, rowText '┃' widths headings,
    Rule.text ⟨'┡', '━', '╇', '┩'⟩ widths] ++
    rows.map (rowText '│' widths) ++ [Rule.text ⟨'└', '─', '┴', '┘'⟩ widths]

/-- The cells of a grid. -/
def shapeCells (s : Grid.Shape) : List Text :=
  [Numeral.ofNat s.count, Numeral.ofNat s.p, Numeral.ofNat s.q, s.ratio.fixed 2]

/-- The report for a number of processes. -/
def gridReport (n : Int) : Attempt (List Text) := do
  let (p, q) ← Grid.squarest n
  let ratio ← Binary64.ofQuotient p q
  let first : Text := Numeral.ofInt n ++ " processes → P=" ++ Numeral.ofNat p ++ ", Q=" ++
    Numeral.ofNat q ++ "  (ratio " ++ ratio.fixed 2 ++ ")"
  match Grid.nearby n with
  | [] => return [first]
  | shapes =>
    return first :: tableText "Nearby process counts" ["processes", "P", "Q", "ratio"]
      (shapes.map shapeCells)

end ClusterPrep.CommandLine
