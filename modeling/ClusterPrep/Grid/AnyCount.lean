import ClusterPrep.Grid.Nearby
import ClusterPrep.Value.Printer

set_option autoImplicit false

/-
  Grids for counts of any kind. Truth values count as numbers, a real below one is refused as a
  count below one is, and any other value as one that no grid can have.
-/
namespace ClusterPrep.Grid

/-- The count of a grid that a value gives. -/
def countOf (v : Value) : Attempt Int :=
  match v.number? with
  | none => throw (.unordered "<" v.kindName "int")
  | some n =>
    if n.lt (.int 1) then do throw (.gridOfNonPositive (← v.shown))
    else v.wholeNumber

/-- The rows and columns of the squarest grid for a value. -/
def squarestFor (v : Value) : Attempt (Nat × Nat) := do squarest (← countOf v)

/-- The best grids near a value. -/
def nearbyFor (v : Value) : Attempt (List Shape) :=
  match v.number? with
  | none => throw (.badOperands "-" v.kindName "int")
  | some _ => return nearby (← v.wholeNumber)

/-- A positive whole number has the squarest grid of its own. -/
theorem squarestFor_int (n : Int) (h : 1 ≤ n) : squarestFor (.int n) = squarest n := by
  have large : Number.lt (.int n) (.int 1) = false := by
    simp only [Number.lt, decide_eq_false_iff_not]
    omega
  simp [squarestFor, countOf, Value.number?, Value.wholeNumber, large, bind, Except.bind, pure,
    Except.pure]

/-- Near a whole number lie the grids of its own. -/
theorem nearbyFor_int (n : Int) : nearbyFor (.int n) = .ok (nearby n) := rfl

end ClusterPrep.Grid
