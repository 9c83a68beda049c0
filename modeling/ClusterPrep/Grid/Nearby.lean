import ClusterPrep.Grid.Shape
import ClusterPrep.Order.Insertion

set_option autoImplicit false

/-
  Process counts near a given one that make squarer grids.
-/
namespace ClusterPrep.Grid

/-- How far a suggested count may be from the given one. -/
def radius : Nat := 5

/-- How many counts are suggested. -/
def limit : Nat := 3

/-- Rows by columns: one for a square, smaller for longer grids. -/
def Shape.ratio (s : Shape) : Binary64 := .ofFraction false s.p s.q

/-- The grid of a count of one at least. -/
def shapeFor (count : Nat) : Shape :=
  let p := divisorUpTo count (Number.sqrt count - 1)
  ⟨count, p, count / p⟩

/-- The counts within the radius of `n`, `n` itself and those below one left out. -/
def counts (n : Int) : List Nat :=
  let first := max 1 (n - radius)
  let near := (List.range (n + radius + 1 - first).toNat).map fun (i : Nat) =>
    (first + (i : Int)).toNat
  near.filter fun m => (m : Int) ≠ n

/-- The grids to choose from: a single row is for tiny counts only. -/
def candidates (n : Int) : List Shape :=
  ((counts n).map shapeFor).filter fun s => 1 < s.p || s.count ≤ 3

/-- Whether two grids are about equally square: their distances from a square differ by less than a
    hundredth. -/
def alike (a b : Shape) : Bool :=
  let off (s : Shape) : Binary64 := ((Binary64.ofInt 1).sub s.ratio).abs
  (((off b).sub (off a)).abs).lt (.ofDecimal false 1 (-2))

/-- Whether `a` comes before `b`: the nearer count if they are alike, or else the squarer grid. -/
def before (n : Int) (a b : Shape) : Bool :=
  if alike a b then
    decide (((a.count : Int) - n).natAbs < ((b.count : Int) - n).natAbs)
  else (b.ratio.sub a.ratio).lt .zero

/-- All grids near `n`, the best first. -/
def ranking (n : Int) : List Shape := Order.sort (before n) (candidates n)

/-- The best grids near `n`. -/
def nearby (n : Int) : List Shape := (ranking n).take limit

end ClusterPrep.Grid
