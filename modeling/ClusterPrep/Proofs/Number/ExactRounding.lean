import ClusterPrep.Number.Binary64
import Mathlib.Algebra.Order.Field.Power
import Mathlib.Algebra.Order.Ring.Rat
import Mathlib.Tactic.Ring
import Mathlib.Tactic.Linarith
import Mathlib.Tactic.Positivity

set_option autoImplicit false

/-
  Rounding leaves alone what needs no rounding: a fraction or a decimal number that is exactly the
  value of a real gives that real.
-/
namespace ClusterPrep

namespace Number

/-- A quotient without remainder is its own rounding. -/
theorem roundEven_mul_self (m d : Nat) (positive : 0 < d) : roundEven (m * d) d = m := by
  have quotient : m * d / d = m := Nat.mul_div_cancel m positive
  have remainder : m * d % d = 0 := Nat.mul_mod_left m d
  have small : 2 * 0 < d := by omega
  simp only [roundEven, quotient, remainder, small, ↓reduceIte]

end Number

/-- The number of units in one, and its place among the powers of ten: both the least and the
    greatest value have fewer than four hundred digits on their side of the point. -/
theorem Binary64.one_bounds : one = 2 ^ 1074 ∧ one < 10 ^ 400 ∧
    2 ^ 53 * 2 ^ 2045 ≤ one * 10 ^ 400 := by
  decide +kernel

namespace NormalForm

variable {m p : Nat}

/-- The power of a normal form is read off the length of its value. -/
theorem log2_sub (normal : NormalForm m p) : (m * 2 ^ p).log2 - 52 = p := by
  obtain ⟨below, above, -⟩ := normal
  rcases above with above | least
  · have nonzero : m * 2 ^ p ≠ 0 :=
      Nat.mul_ne_zero (by intro zero; rw [zero] at above; contradiction) (by positivity)
    have exact : (m * 2 ^ p).log2 = 52 + p := by
      refine (Nat.log2_eq_iff nonzero).mpr ⟨?_, ?_⟩
      · rw [Nat.pow_add]
        exact Nat.mul_le_mul_right (2 ^ p) above
      · rw [show 52 + p + 1 = 53 + p by omega, Nat.pow_add]
        exact Nat.mul_lt_mul_of_pos_right below (by positivity)
    omega
  · subst least
    rw [Nat.pow_zero, Nat.mul_one]
    by_cases zero : m = 0
    · rw [zero, Nat.log2_zero]
    · have short := (Nat.log2_lt zero).mpr below
      omega

/-- The greatest value has fewer than four hundred digits before the point. -/
theorem value_lt (normal : NormalForm m p) : m * 2 ^ p < Binary64.one * 10 ^ 400 := by
  obtain ⟨below, -, least⟩ := normal
  obtain ⟨-, -, bounded⟩ := Binary64.one_bounds
  have power : 2 ^ p ≤ 2 ^ 2045 := pow_le_pow_right₀ (by decide) least
  calc
    m * 2 ^ p < 2 ^ 53 * 2 ^ p := Nat.mul_lt_mul_of_pos_right below (by positivity)
    _ ≤ 2 ^ 53 * 2 ^ 2045 := Nat.mul_le_mul_left _ power
    _ ≤ Binary64.one * 10 ^ 400 := bounded

end NormalForm

namespace Binary64

variable {neg : Bool} {m p : Nat}

theorem one_pos : 0 < one := by
  obtain ⟨unit, -⟩ := one_bounds
  rw [unit]
  positivity

theorem pack_of_normal (normal : NormalForm m p) : pack neg m p = finite neg m p normal := by
  rw [pack, dif_pos normal]

theorem round_of_exact (normal : NormalForm m p) {a d : Nat} (positive : 0 < d)
    (exact : a = m * 2 ^ p * d) : round neg a d = finite neg m p normal := by
  have quotient : a / d = m * 2 ^ p := by
    rw [exact]
    exact Nat.mul_div_cancel _ positive
  have scaled : a = m * (d * Nat.pow 2 p) := by
    rw [exact]
    change _ = m * (d * 2 ^ p)
    ring
  have rounded : Number.roundEven a (d * Nat.pow 2 p) = m := by
    rw [scaled]
    exact Number.roundEven_mul_self m _ (Nat.mul_pos positive (Nat.pow_pos (by decide)))
  have inside : m ≠ Nat.pow 2 53 := Nat.ne_of_lt normal.1
  simp only [round, quotient, normal.log2_sub, rounded, inside, ↓reduceIte]
  exact pack_of_normal normal

/-- The number of digits fixes a number up to a factor of ten. -/
theorem length_toDigits_bounds {n : Nat} (nonzero : n ≠ 0) :
    10 ^ ((Nat.toDigits 10 n).length - 1) ≤ n ∧ n < 10 ^ (Nat.toDigits 10 n).length := by
  have upper := (Nat.length_toDigits_le_iff (b := 10) (n := n) (by decide)
    Nat.length_toDigits_pos).mp (Nat.le_refl _)
  refine ⟨?_, upper⟩
  by_cases single : (Nat.toDigits 10 n).length - 1 = 0
  · rw [single]
    omega
  · by_contra short
    have below := (Nat.length_toDigits_le_iff (b := 10) (n := n) (by decide)
      (Nat.pos_of_ne_zero single)).mpr (Nat.lt_of_not_le short)
    omega

/-- Where the first digit of a decimal number stands, when the number is a whole number of units
    between the least and the greatest value. -/
private theorem place_bounds {digits units unit limit : Nat} {e : Int}
    (nonzero : digits ≠ 0) (low : unit < 10 ^ limit) (high : units < unit * 10 ^ limit)
    (exact : digits * unit * 10 ^ e.toNat = units * 10 ^ (-e).toNat) (positive : 0 < unit) :
    -(limit : Int) ≤ (Nat.toDigits 10 digits).length + e ∧
      (Nat.toDigits 10 digits).length + e ≤ limit := by
  obtain ⟨lower, upper⟩ := length_toDigits_bounds nonzero
  have long : 0 < (Nat.toDigits 10 digits).length := Nat.length_toDigits_pos
  generalize (Nat.toDigits 10 digits).length = n at lower upper long ⊢
  constructor
  · by_contra tiny
    have far : n + limit ≤ (-e).toNat := by omega
    have flat : e.toNat = 0 := by omega
    have one_le : 1 ≤ units := by
      by_contra empty
      have empty : units = 0 := by omega
      rw [empty, flat, Nat.zero_mul, Nat.pow_zero, Nat.mul_one] at exact
      exact Nat.mul_ne_zero nonzero (Nat.ne_of_gt positive) exact
    rw [flat, Nat.pow_zero, Nat.mul_one] at exact
    have tight : digits * unit < 10 ^ n * 10 ^ limit := Nat.mul_lt_mul'' upper low
    have wide : 10 ^ (n + limit) ≤ 10 ^ (-e).toNat := Nat.pow_le_pow_right (by decide) far
    have scaled : 10 ^ (-e).toNat ≤ units * 10 ^ (-e).toNat := Nat.le_mul_of_pos_left _ one_le
    rw [Nat.pow_add] at wide
    omega
  · by_contra huge
    have far : limit + (-e).toNat ≤ n - 1 + e.toNat := by omega
    have wide : 10 ^ (limit + (-e).toNat) ≤ 10 ^ (n - 1 + e.toNat) :=
      Nat.pow_le_pow_right (by decide) far
    rw [Nat.pow_add, Nat.pow_add] at wide
    have lifted := Nat.mul_le_mul_right (10 ^ e.toNat) lower
    have below : unit * (digits * 10 ^ e.toNat) < unit * (10 ^ limit * 10 ^ (-e).toNat) := by
      calc
        unit * (digits * 10 ^ e.toNat) = units * 10 ^ (-e).toNat := by rw [← exact]; ring
        _ < unit * 10 ^ limit * 10 ^ (-e).toNat := Nat.mul_lt_mul_of_pos_right high (by positivity)
        _ = unit * (10 ^ limit * 10 ^ (-e).toNat) := by ring
    have tight := Nat.lt_of_mul_lt_mul_left below
    omega

/-- A decimal number that is exactly the value of a real is read as that real. The decimal may
    have any number of digits: none of them is cut off. -/
theorem ofDecimal_of_exact (normal : NormalForm m p) {digits : Nat} {e : Int}
    (exact : digits * one * 10 ^ e.toNat = m * 2 ^ p * 10 ^ (-e).toNat) :
    ofDecimal neg digits e = finite neg m p normal := by
  by_cases zero : digits = 0
  · have empty : m = 0 := by
      rw [zero, Nat.zero_mul, Nat.zero_mul] at exact
      by_contra nonzero
      exact Nat.mul_ne_zero (Nat.mul_ne_zero nonzero (by positivity)) (by positivity) exact.symm
    have least : p = 0 := normal.2.1.resolve_left (by rw [empty]; decide)
    subst empty least
    rw [ofDecimal]
    simp only [zero, true_or, ↓reduceIte]
    exact pack_of_normal normal
  · obtain ⟨lower, upper⟩ := place_bounds zero one_bounds.2.1 normal.value_lt exact one_pos
    have notTiny : ¬ (digits = 0 ∨ ((Nat.toDigits 10 digits).length : Int) + e < -400) := by
      omega
    have notHuge : ¬ 400 < ((Nat.toDigits 10 digits).length : Int) + e := by omega
    rw [ofDecimal]
    simp only [notTiny, notHuge, ↓reduceIte]
    by_cases whole : 0 ≤ e
    · have flat : (-e).toNat = 0 := by omega
      rw [if_pos whole, ofFraction]
      rw [flat, Nat.pow_zero, Nat.mul_one] at exact
      refine round_of_exact normal (by decide) ?_
      rw [Nat.mul_one, ← exact]
      exact Nat.mul_right_comm digits (10 ^ e.toNat) one
    · have flat : e.toNat = 0 := by omega
      rw [if_neg whole, ofFraction]
      rw [flat, Nat.pow_zero, Nat.mul_one] at exact
      exact round_of_exact normal (Nat.pow_pos (by decide)) exact

/-! ### Rounding gives a number -/

theorem pack_ne_nan (neg : Bool) (m p : Nat) : pack neg m p ≠ nan := by
  rw [pack]
  split <;> simp

theorem round_ne_nan (neg : Bool) (a d : Nat) : round neg a d ≠ nan := by
  rw [round]
  split
  · exact pack_ne_nan _ _ _
  · exact pack_ne_nan _ _ _

/-- A decimal number is read as a number, which may be infinite. -/
theorem ofDecimal_ne_nan (neg : Bool) (digits : Nat) (e : Int) : ofDecimal neg digits e ≠ nan := by
  rw [ofDecimal]
  split
  · exact pack_ne_nan _ _ _
  · split
    · simp
    · split
      · exact round_ne_nan _ _ _
      · exact round_ne_nan _ _ _

theorem ofInt_ne_nan (i : Int) : ofInt i ≠ nan := by
  rw [ofInt, ofFraction]
  exact round_ne_nan _ _ _

/-! ### Numbers beyond the reals -/

theorem le_of_isFinite_pack {neg : Bool} {m p : Nat} (finite : (pack neg m p).isFinite = true) :
    p ≤ 2045 := by
  rw [pack] at finite
  split at finite
  · rename_i normal
    exact normal.2.2
  · cases finite

/-- What is rounded to a finite number has at most 2098 bits in units. -/
theorem log2_le_of_isFinite_round {neg : Bool} {a d : Nat}
    (finite : (round neg a d).isFinite = true) : (a / d).log2 ≤ 2097 := by
  rw [round] at finite
  split at finite
  · have most := le_of_isFinite_pack finite
    omega
  · have most := le_of_isFinite_pack finite
    omega

theorem lt_pow_of_log2_lt {n k l : Nat} (few : (n * 2 ^ l).log2 < k + l) : n < 2 ^ k := by
  have shifted : n * 2 ^ l < 2 ^ k * 2 ^ l := by
    rw [← Nat.pow_add]
    rcases Nat.eq_zero_or_pos (n * 2 ^ l) with zero | positive
    · rw [zero]
      exact Nat.pow_pos (by decide)
    · have nonzero : n * 2 ^ l ≠ 0 := by omega
      exact (Nat.log2_lt nonzero).mp few
  exact Nat.lt_of_mul_lt_mul_right shifted

theorem isFinite_of_unlessInfinite {x y : Binary64} {e : Failure} (number : x ≠ nan)
    (within : x.unlessInfinite e = .ok y) : x.isFinite = true := by
  cases x with
  | nan => exact absurd rfl number
  | inf neg => cases within
  | finite neg m p normal => rfl

theorem unlessInfinite_of_isFinite {x : Binary64} (finite : x.isFinite = true) (e : Failure) :
    x.unlessInfinite e = .ok x := by
  cases x with
  | nan => cases finite
  | inf neg => cases finite
  | finite neg m p normal => rfl

/-- A whole number within the reals has at most 1024 bits. -/
theorem natAbs_lt_of_ofInt? {i : Int} {x : Binary64} (within : ofInt? i = .ok x) :
    i.natAbs < 2 ^ 1024 := by
  have finite := isFinite_of_unlessInfinite (ofInt_ne_nan i) within
  rw [ofInt, ofFraction] at finite
  have bits := log2_le_of_isFinite_round finite
  rw [Nat.div_one, one_bounds.1] at bits
  exact lt_pow_of_log2_lt (Nat.lt_succ_of_le bits)

end Binary64

end ClusterPrep
