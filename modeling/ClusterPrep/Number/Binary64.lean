import ClusterPrep.Number.Rounding
import ClusterPrep.Failure

set_option autoImplicit false

/-
  Binary floating-point numbers of 53 significant bits. A finite number is a whole number of units
  of 2^-1074; every operation computes its result exactly, as a fraction of units, and rounds once
  to the nearest number, a tie going to the even significand.
-/
namespace ClusterPrep

/-- A significand and a power of two in normal form: 53 bits, or fewer at the least power. -/
def NormalForm (m p : Nat) : Prop :=
  m < Nat.pow 2 53 ∧ (Nat.pow 2 52 ≤ m ∨ p = 0) ∧ p ≤ 2045

instance (m p : Nat) : Decidable (NormalForm m p) := inferInstanceAs (Decidable (_ ∧ _ ∧ _))

/-- A number, with one value for all that is not a number. `finite neg m p` stands for
    `m * 2 ^ p` units, less than zero if `neg`. -/
inductive Binary64
  | nan
  | inf (neg : Bool)
  | finite (neg : Bool) (m p : Nat) (normal : NormalForm m p)
deriving DecidableEq

namespace Binary64

/-- The number of units in one, 2^1074. -/
def one : Nat := Nat.pow 2 1074

/-- The number with this significand and power; what is too large is infinite. -/
def pack (neg : Bool) (m p : Nat) : Binary64 :=
  if h : NormalForm m p then finite neg m p h else inf neg

/-- The number nearest to `a / d` units. -/
def round (neg : Bool) (a d : Nat) : Binary64 :=
  let p := (a / d).log2 - 52
  let m := Number.roundEven a (d * Nat.pow 2 p)
  if m = Nat.pow 2 53 then pack neg (Nat.pow 2 52) (p + 1) else pack neg m p

/-- The number nearest to the fraction `a / d`. -/
def ofFraction (neg : Bool) (a d : Nat) : Binary64 := round neg (a * one) d

/-- The number nearest to `digits * 10 ^ e`. Beyond the four hundredth decimal place on either side
    of the point the result is infinite or zero whatever the digits are. -/
def ofDecimal (neg : Bool) (digits : Nat) (e : Int) : Binary64 :=
  let magnitude : Int := (Nat.toDigits 10 digits).length + e
  if digits = 0 ∨ magnitude < -400 then pack neg 0 0
  else if 400 < magnitude then inf neg
  else if 0 ≤ e then ofFraction neg (digits * Nat.pow 10 e.toNat) 1
  else ofFraction neg digits (Nat.pow 10 (-e).toNat)

/-- The number nearest to a whole number. -/
def ofInt (i : Int) : Binary64 := ofFraction (decide (i < 0)) i.natAbs 1

def zero : Binary64 := pack false 0 0

def isFinite : Binary64 → Bool
  | finite .. => true
  | _ => false

/-- The value in units, for a finite number. -/
def units : Binary64 → Int
  | finite neg m p _ =>
    let n : Int := (m * Nat.pow 2 p : Nat)
    if neg then -n else n
  | _ => 0

/-- Whether the sign is minus; a number without value has no sign. -/
def isNegative : Binary64 → Bool
  | nan => false
  | inf neg => neg
  | finite neg .. => neg

def isZero : Binary64 → Bool
  | finite _ m .. => m == 0
  | _ => false

/-- The number nearest to `u / d` units, zero having the sign `zeroNeg`. -/
def roundSigned (zeroNeg : Bool) (u : Int) (d : Nat) : Binary64 :=
  if u = 0 then pack zeroNeg 0 0 else round (decide (u < 0)) u.natAbs d

def neg : Binary64 → Binary64
  | nan => nan
  | inf s => inf (!s)
  | finite s m p h => finite (!s) m p h

def abs : Binary64 → Binary64
  | nan => nan
  | inf _ => inf false
  | finite _ m p h => finite false m p h

/-- The sum. A sum of zero is negative only if both terms are negative zeros. -/
def add : Binary64 → Binary64 → Binary64
  | nan, _ | _, nan => nan
  | inf s, inf t => if s = t then inf s else nan
  | inf s, _ => inf s
  | _, inf t => inf t
  | x@(finite s ..), y@(finite t ..) => roundSigned (s && t) (x.units + y.units) 1

def sub (x y : Binary64) : Binary64 := add x y.neg

def mul : Binary64 → Binary64 → Binary64
  | nan, _ | _, nan => nan
  | inf s, y => if y.isZero then nan else inf (s != y.isNegative)
  | x, inf t => if x.isZero then nan else inf (x.isNegative != t)
  | x@(finite s ..), y@(finite t ..) => roundSigned (s != t) (x.units * y.units) one

/-- The quotient; dividing by zero is the caller's failure and gives no number here. -/
def div : Binary64 → Binary64 → Binary64
  | nan, _ | _, nan => nan
  | inf _, inf _ => nan
  | inf s, y => if y.isZero then nan else inf (s != y.isNegative)
  | x, inf t => pack (x.isNegative != t) 0 0
  | x@(finite s ..), y@(finite t ..) =>
    if y.isZero then nan
    else if x.isZero then pack (s != t) 0 0
    else round (s != t) (x.units.natAbs * one) y.units.natAbs

/-- The square root, correctly rounded. The whole root in units has more than 500 bits, so that the
    bit after them need only say whether it is exact. -/
def sqrt : Binary64 → Binary64
  | nan => nan
  | inf false => inf false
  | inf true => nan
  | x@(finite s m p _) =>
    if m = 0 then x
    else if s then nan
    else
      let n := m * Nat.pow 2 p * one
      let r := Number.sqrt n
      round false (2 * r + if r * r = n then 0 else 1) 2

/-- Less than; false if either is not a number. -/
def lt : Binary64 → Binary64 → Bool
  | nan, _ | _, nan => false
  | inf s, inf t => s && !t
  | inf s, finite .. => s
  | finite .., inf t => !t
  | x@(finite ..), y@(finite ..) => decide (x.units < y.units)

/-- Equal in value; zeros of either sign are equal, and what is not a number equals nothing. -/
def eq : Binary64 → Binary64 → Bool
  | nan, _ | _, nan => false
  | inf s, inf t => s == t
  | x@(finite ..), y@(finite ..) => decide (x.units = y.units)
  | _, _ => false

def le (x y : Binary64) : Bool := lt x y || eq x y

/-- The greatest whole number that is not above the value. -/
def floor : Binary64 → Attempt Int
  | nan => .error .integerOfNan
  | inf _ => .error .integerOfInfinity
  | x@(finite ..) => .ok (x.units / (one : Int))

/-- The value without its fraction. -/
def truncate : Binary64 → Attempt Int
  | nan => .error .integerOfNan
  | inf _ => .error .integerOfInfinity
  | x@(finite ..) => .ok (x.units.tdiv one)

/-- What is left of `x` when whole multiples of `y` are taken towards zero. -/
def rem : Binary64 → Binary64 → Binary64
  | x@(finite s ..), y@(finite ..) =>
    if y.isZero then nan else roundSigned s (x.units.tmod y.units) 1
  | x@(finite ..), inf _ => x
  | _, _ => nan

/-- The greatest whole number at most the value, as a real. -/
def floorReal (x : Binary64) : Binary64 :=
  match x with
  | finite .. => ofInt (x.units / (one : Int))
  | _ => x

/-- The whole number of times that `y` goes into `x`, towards minus infinity, computed through the
    remainder as reals. -/
def floorDiv (x y : Binary64) : Attempt Binary64 :=
  if y.isZero then .error .realFloorDivisionByZero
  else
    let r := rem x y
    let q := div (sub x r) y
    let q := if !r.isZero && lt y zero != lt r zero then sub q (ofInt 1) else q
    if q.isZero then .ok (pack (div x y).isNegative 0 0)
    else
      let f := floorReal q
      .ok (if lt (ofFraction false 1 2) (sub q f) then add f (ofInt 1) else f)

/-- The number, unless it is infinite. -/
def unlessInfinite (tooLarge : Failure) : Binary64 → Attempt Binary64
  | inf _ => .error tooLarge
  | x => .ok x

/-- A whole number as a real, which it must not exceed. -/
def ofInt? (i : Int) : Attempt Binary64 := (ofInt i).unlessInfinite .realOfLargeInteger

/-- The quotient of two whole numbers, rounded once. -/
def ofQuotient (a b : Int) : Attempt Binary64 :=
  if b = 0 then .error .divisionByZero
  else (ofFraction (decide (a < 0) != decide (b < 0)) a.natAbs b.natAbs).unlessInfinite
    .largeQuotient

end Binary64

end ClusterPrep
