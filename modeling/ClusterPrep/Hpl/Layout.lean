import ClusterPrep.Grid.AnyCount
import ClusterPrep.Hpl.Config

set_option autoImplicit false

/-
  A configuration laid out for a number of processes: with the one grid that is nearest to a square.
-/
namespace ClusterPrep.Hpl

/-- The configuration with a single grid, the squarest for `processes` processes. -/
def Config.laidOut (c : Config) (processes : Int) : Attempt Config := do
  let (p, q) ← Grid.squarest processes
  return { c with ps := [.int p], qs := [.int q] }

/-- The configuration laid out for a value of any kind. -/
def Config.laidOutFor (c : Config) (processes : Value) : Attempt Config := do
  c.laidOut (← Grid.countOf processes)

end ClusterPrep.Hpl
