import ClusterPrep.Display.Styled
import ClusterPrep.Grid.Nearby
import ClusterPrep.Value.Printer

set_option autoImplicit false

/-
  Process grids in colour: green for nearly square ones, red for long ones.
-/
namespace ClusterPrep.Display

/-- The colour of a ratio of rows to columns. -/
def ratioColor (ratio : Number) : String :=
  let atLeast (digits : Nat) (places : Int) : Bool :=
    Number.le (.real (.ofDecimal false digits (-places))) ratio
  if atLeast 75 2 then "green" else if atLeast 4 1 then "yellow" else "red"

/-- The colour of a value that is to be a ratio. -/
def colorFor (v : Value) : Attempt String :=
  match v.number? with
  | none => throw (.unordered ">=" v.kindName "float")
  | some ratio => return ratioColor ratio

/-- The quotient of two values. -/
def quotient (p q : Value) : Attempt Binary64 :=
  match p.number?, q.number? with
  | some a, some b => a.div b
  | _, _ => throw (.badOperands "/" p.kindName q.kindName)

/-- A count and its grid. -/
def gridText (n p q : Text) : Text := n ++ " → " ++ p ++ " x " ++ q

/-- A count and its grid, given as values of any kind, in the colour of its ratio. -/
def grid (n p q : Value) : Attempt Styled := do
  let text := gridText (← n.shown) (← p.shown) (← q.shown)
  return .of text (ratioColor (.real (← quotient p q)))

/-- A grid in the colour of its ratio. -/
def shape (s : Grid.Shape) : Styled :=
  .of (gridText (Numeral.ofNat s.count) (Numeral.ofNat s.p) (Numeral.ofNat s.q))
    (ratioColor (.real s.ratio))

/-- The grids near a count, in one line. -/
def nearby (shapes : List Grid.Shape) : Styled :=
  let rec go (t : Styled) (first : Bool) : List Grid.Shape → Styled
    | [] => t
    | s :: rest =>
      let t := if first then t else t.append ", " ""
      let one := shape s
      go (t.append one.plain one.style) false rest
  go (.of "Nearby: " "") true shapes

end ClusterPrep.Display
