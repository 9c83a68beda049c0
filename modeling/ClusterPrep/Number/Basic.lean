import ClusterPrep.Number.Binary64

set_option autoImplicit false

/-
  Numbers of two kinds that stay apart: whole numbers of any size, computed exactly, and reals. An
  operation on both kinds gives a real; a comparison of both kinds is exact.
-/
namespace ClusterPrep

inductive Number
  | int (i : Int)
  | real (x : Binary64)
deriving DecidableEq

namespace Number

/-- The number as a real, which a whole number must not exceed. -/
def toReal : Number → Attempt Binary64
  | int i => Binary64.ofInt? i
  | real x => .ok x

/-- Less than, exactly; false if either is not a number. -/
def lt : Number → Number → Bool
  | int a, int b => decide (a < b)
  | real x, real y => x.lt y
  | int _, real .nan => false
  | int _, real (.inf neg) => !neg
  | int a, real y => decide (a * Binary64.one < y.units)
  | real .nan, int _ => false
  | real (.inf neg), int _ => neg
  | real x, int b => decide (x.units < b * Binary64.one)

/-- Equal in value, whatever the kind. -/
def eq : Number → Number → Bool
  | int a, int b => decide (a = b)
  | real x, real y => x.eq y
  | int a, real y | real y, int a => y.isFinite && decide (y.units = a * Binary64.one)

def le (a b : Number) : Bool := lt a b || eq a b

/-- The product. -/
def mul : Number → Number → Attempt Number
  | int a, int b => .ok (int (a * b))
  | a, b => do
    let x ← a.toReal
    let y ← b.toReal
    return real (x.mul y)

/-- The quotient, always a real. -/
def div : Number → Number → Attempt Binary64
  | int a, int b => Binary64.ofQuotient a b
  | a, b => do
    let x ← a.toReal
    let y ← b.toReal
    if y.isZero then throw .realDivisionByZero
    return x.div y

/-- The greatest whole multiple count: how often `b` goes into `a`, towards minus infinity. -/
def floorDiv : Number → Number → Attempt Number
  | int a, int b => if b = 0 then .error .floorDivisionByZero else .ok (int (a.fdiv b))
  | a, b => do
    let x ← a.toReal
    let y ← b.toReal
    return real (← x.floorDiv y)

end Number

end ClusterPrep
