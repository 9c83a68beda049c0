import ClusterPrep.Number.Numeral

set_option autoImplicit false

/-
  Process grids. A number of processes is laid out in P rows and Q columns, as near to a square as
  its divisors allow.
-/
namespace ClusterPrep.Grid

/-- The greatest divisor of `n` that is at most `k + 1`. -/
def divisorUpTo (n : Nat) : Nat → Nat
  | 0 => 1
  | k + 1 => if n % (k + 2) = 0 then k + 2 else divisorUpTo n k

/-- The rows and columns of the grid for `n` processes nearest to a square; none for `n < 1`. -/
def squarest (n : Int) : Attempt (Nat × Nat) :=
  if n < 1 then do throw (.gridOfNonPositive (← Numeral.writeInt n))
  else
    let n := n.toNat
    let p := divisorUpTo n (Number.sqrt n - 1)
    return (p, n / p)

/-- A grid for `count` processes. -/
structure Shape where
  count : Nat
  p : Nat
  q : Nat
deriving DecidableEq, Repr

end ClusterPrep.Grid
