import ClusterPrep.Proofs.Number.Difference
import Mathlib.Algebra.Order.Field.Basic
import Mathlib.Data.Rat.Cast.Order
import Mathlib.Tactic.NormNum

set_option autoImplicit false

/-
  How far rounding is off. Between minus one and one, a fraction or a difference is rounded to a
  number that is at most 2^-53 away from it and is itself between minus one and one.
-/
namespace ClusterPrep

namespace Number

/-- Rounding goes to within half of the divisor. -/
theorem roundEven_near {a d : Nat} (positive : 0 < d) :
    2 * (roundEven a d * d) ≤ 2 * a + d ∧ 2 * a ≤ 2 * (roundEven a d * d) + d := by
  have whole : a / d * d + a % d = a := by rw [Nat.mul_comm]; exact Nat.div_add_mod a d
  have rest : a % d < d := Nat.mod_lt a positive
  have next : (a / d + 1) * d = a / d * d + d := Nat.succ_mul _ _
  rw [roundEven]
  generalize a / d = q at *
  generalize a % d = r at *
  split_ifs <;> omega

/-- What is at most a whole number is rounded to at most that. -/
theorem roundEven_le_of_le {a d k : Nat} (positive : 0 < d) (le : a ≤ k * d) :
    roundEven a d ≤ k := by
  have quotient : a / d ≤ k := by
    rw [← Nat.mul_div_cancel k positive]
    exact Nat.div_le_div_right le
  by_cases level : a / d = k
  · have lower : k * d ≤ a := level ▸ Nat.div_mul_le_self a d
    have exact : a = k * d := Nat.le_antisymm le lower
    rw [exact, roundEven_mul_self k d positive]
  · have up := roundEven_le a d
    omega

end Number

namespace Binary64

variable {neg : Bool} {a d m p : Nat} {x y : Binary64}

/-- The value of a finite number. -/
def value (x : Binary64) : ℚ := x.units / one

/-- How far rounding is off at most between minus one and one. -/
def roundoff : ℚ := 1 / 2 ^ 53

/-- A finite number between minus one and one. -/
structure IsUnit (x : Binary64) : Prop where
  finite : x.isFinite = true
  within : x.units.natAbs ≤ one

theorem one_value_pos : (0 : ℚ) < one := Nat.cast_pos.mpr one_pos

theorem value_lt_iff (left : x.isFinite = true) (right : y.isFinite = true) :
    x.lt y = true ↔ x.value < y.value := by
  rw [lt_iff_units left right, value, value, div_lt_div_iff_of_pos_right one_value_pos,
    Int.cast_lt]

theorem units_abs (x : Binary64) : x.abs.units = |x.units| := by
  cases x with
  | nan => rfl
  | inf s => rfl
  | finite s m p normal =>
      cases s with
      | false => exact (abs_of_nonneg (Int.natCast_nonneg _)).symm
      | true => exact ((abs_neg _).trans (abs_of_nonneg (Int.natCast_nonneg _))).symm

theorem value_abs (x : Binary64) : x.abs.value = |x.value| := by
  rw [value, value, units_abs, abs_div, abs_of_pos one_value_pos, Int.cast_abs]

theorem IsUnit.abs (unit : x.IsUnit) : x.abs.IsUnit := by
  obtain ⟨finite, within⟩ := unit
  refine ⟨?_, by rwa [units_abs, Int.natAbs_abs]⟩
  cases x with
  | nan => cases finite
  | inf s => cases finite
  | finite s m p normal => rfl

theorem units_pack (normal : NormalForm m p) :
    (pack neg m p).units = if neg then -((m * 2 ^ p : Nat) : Int) else (m * 2 ^ p : Nat) := by
  rw [pack_of_normal normal]
  rfl

/-- A whole number up to a power of two has no more bits than that. -/
theorem log2_le_of_le {n k : Nat} (le : n ≤ 2 ^ k) : n.log2 ≤ k := by
  by_cases zero : n = 0
  · rw [zero, Nat.log2_zero]
    exact Nat.zero_le k
  · have above : 2 ^ k < 2 ^ (k + 1) := Nat.pow_lt_pow_succ (by decide)
    have bits := (Nat.log2_lt zero).mpr (Nat.lt_of_le_of_lt le above)
    omega

/-- Half of the last place of one, in units. -/
def halfPlace : Nat := 2 ^ 1021

theorem one_eq : one = 2 ^ 53 * halfPlace := by
  rw [one_bounds.1, halfPlace, ← Nat.pow_add]

theorem pow_le_double {k : Nat} (low : p ≤ k + 1) : 2 ^ p ≤ 2 * 2 ^ k := by
  rw [Nat.mul_comm, ← Nat.pow_succ]
  exact Nat.pow_le_pow_right Nat.two_pos low

theorem place_le (low : p ≤ 1021 + 1) : 2 ^ p ≤ 2 * halfPlace := by
  rw [halfPlace]
  exact pow_le_double low

/-- A fraction up to one is rounded to a number up to one, at most half of the last place away. -/
theorem round_near (neg : Bool) (positive : 0 < d) (small : a ≤ one * d) :
    (round neg a d).isFinite = true ∧ ∃ u : Nat, u ≤ one ∧
      (round neg a d).units = (if neg then -(u : Int) else u) ∧
      u * d ≤ a + d * halfPlace ∧ a ≤ u * d + d * halfPlace := by
  obtain ⟨p, power⟩ : ∃ p, (a / d).log2 - 52 = p := ⟨_, rfl⟩
  have quotient : a / d ≤ one := Nat.div_le_of_le_mul (by rwa [Nat.mul_comm])
  have low : p ≤ 1022 := by
    rw [one_bounds.1] at quotient
    have bits := log2_le_of_le quotient
    omega
  obtain ⟨short, long⟩ := quotient_bounds power
  have span : 0 < d * 2 ^ p := Nat.mul_pos positive (Nat.two_pow_pos p)
  have place : d * 2 ^ p ≤ 2 * (d * halfPlace) := by
    rw [Nat.mul_left_comm]
    exact Nat.mul_le_mul_left d (place_le low)
  obtain ⟨upper, lower⟩ := Number.roundEven_near (a := a) span
  have least := Number.div_le_roundEven a (d * 2 ^ p)
  have most := Number.roundEven_le a (d * 2 ^ p)
  have unit : one = 2 ^ (1074 - p) * 2 ^ p := by
    rw [one_bounds.1, ← Nat.pow_add, Nat.sub_add_cancel (by omega)]
  have limit : Number.roundEven a (d * 2 ^ p) ≤ 2 ^ (1074 - p) := by
    apply Number.roundEven_le_of_le span
    calc
      a ≤ one * d := small
      _ = 2 ^ (1074 - p) * (d * 2 ^ p) := by rw [unit]; ring
  rw [round_eq, power]
  generalize Number.roundEven a (d * 2 ^ p) = m at upper lower least most limit ⊢
  have product : m * 2 ^ p * d = m * (d * 2 ^ p) := by ring
  have near : m * 2 ^ p ≤ one ∧ m * 2 ^ p * d ≤ a + d * halfPlace ∧
      a ≤ m * 2 ^ p * d + d * halfPlace := by
    refine ⟨unit ▸ Nat.mul_le_mul_right _ limit, ?_, ?_⟩ <;> rw [product] <;> omega
  split
  · rename_i carry
    have normal : NormalForm (2 ^ 52) (p + 1) :=
      ⟨Nat.pow_lt_pow_right (by decide) (by decide), .inl (Nat.le_refl _), by omega⟩
    have same : 2 ^ 52 * 2 ^ (p + 1) = m * 2 ^ p := by rw [carry, Nat.pow_succ]; ring
    exact ⟨isFinite_pack_iff.mpr normal, m * 2 ^ p, near.1, by rw [units_pack normal, same], near.2⟩
  · rename_i inside
    have normal : NormalForm m p :=
      ⟨Nat.lt_of_le_of_ne (Nat.le_trans most short) inside,
        long.imp_left fun full => Nat.le_trans full least, by omega⟩
    exact ⟨isFinite_pack_iff.mpr normal, m * 2 ^ p, near.1, units_pack normal, near.2⟩

/-- The value of a rounded fraction up to one. -/
theorem value_round (neg : Bool) (positive : 0 < d) (small : a ≤ one * d) :
    IsUnit (round neg a d) ∧
      |(round neg a d).value - (if neg then -1 else 1) * (a / (d * one))| ≤ roundoff := by
  obtain ⟨finite, u, limit, rounded, upper, lower⟩ := round_near neg positive small
  refine ⟨⟨finite, ?_⟩, ?_⟩
  · rw [rounded]
    cases neg <;> simpa using limit
  have divisor : (0 : ℚ) < d := Nat.cast_pos.mpr positive
  have scale : (0 : ℚ) < d * one := mul_pos divisor one_value_pos
  have upper : (u * d : ℚ) ≤ a + d * halfPlace := by exact_mod_cast upper
  have lower : (a : ℚ) ≤ u * d + d * halfPlace := by exact_mod_cast lower
  have near : |(u / one - a / (d * one) : ℚ)| ≤ roundoff := by
    have gap : (u / one - a / (d * one) : ℚ) = (u * d - a) / (d * one) := by
      rw [← mul_div_mul_left (u : ℚ) one divisor.ne', mul_comm (d : ℚ) u, sub_div]
    have share : roundoff * (d * one) = d * halfPlace := by
      rw [one_eq, roundoff]
      push_cast
      ring
    rw [gap, abs_div, abs_of_pos scale, div_le_iff₀ scale, share, abs_le]
    constructor <;> linarith
  rw [value, rounded]
  cases neg with
  | false => simpa only [Bool.false_eq_true, ↓reduceIte, one_mul, Int.cast_natCast] using near
  | true =>
      rw [← abs_neg]
      convert near using 2
      simp only [↓reduceIte]
      push_cast
      ring

/-- The value of a rounded signed fraction between minus one and one. -/
theorem value_roundSigned (s : Bool) {u : Int} (positive : 0 < d) (small : u.natAbs ≤ one * d) :
    IsUnit (roundSigned s u d) ∧ |(roundSigned s u d).value - u / (d * one)| ≤ roundoff := by
  by_cases zero : u = 0
  · have normal : NormalForm 0 0 := by decide
    have unchanged : roundSigned s u d = finite s 0 0 normal := by
      rw [roundSigned, if_pos zero, pack_of_normal]
    have none : (finite s 0 0 normal).units = 0 := by cases s <;> rfl
    rw [unchanged, zero]
    refine ⟨⟨rfl, by rw [none]; exact Nat.zero_le _⟩, ?_⟩
    rw [value, none, Int.cast_zero, zero_div, zero_div, sub_zero, abs_zero, roundoff]
    positivity
  · rw [roundSigned, if_neg zero]
    obtain ⟨unit, near⟩ := value_round (decide (u < 0)) positive small
    have signed : (u : ℚ) = (if decide (u < 0) then -1 else 1) * (u.natAbs : ℚ) := by
      by_cases negative : u < 0
      · have magnitude : u = -(u.natAbs : Int) := by omega
        simp only [negative, decide_true, ↓reduceIte]
        rw [neg_one_mul]
        exact_mod_cast congrArg (Int.cast : Int → ℚ) magnitude
      · have magnitude : u = (u.natAbs : Int) := by omega
        simp only [negative, decide_false, Bool.false_eq_true, ↓reduceIte]
        rw [one_mul]
        exact congrArg (Int.cast : Int → ℚ) magnitude
    refine ⟨unit, ?_⟩
    rw [signed, mul_div_assoc]
    exact near

/-- The value of a fraction up to one. -/
theorem value_ofFraction {n : Nat} (positive : 0 < d) (small : n ≤ d) :
    IsUnit (ofFraction false n d) ∧ 0 ≤ (ofFraction false n d).units ∧
      |(ofFraction false n d).value - n / d| ≤ roundoff := by
  have within : n * one ≤ one * d := by
    rw [Nat.mul_comm]
    exact Nat.mul_le_mul_left one small
  obtain ⟨-, u, -, rounded, -⟩ := round_near false positive within
  obtain ⟨unit, near⟩ := value_round false positive within
  refine ⟨unit, ?_, ?_⟩
  · rw [ofFraction, rounded]
    exact Int.natCast_nonneg u
  · simp only [Bool.false_eq_true, ↓reduceIte, one_mul, Nat.cast_mul] at near
    rwa [mul_div_mul_right _ _ one_value_pos.ne'] at near

/-- The value of a difference between minus one and one. -/
theorem value_sub (left : x.isFinite = true) (right : y.isFinite = true)
    (small : (x.units - y.units).natAbs ≤ one) :
    IsUnit (x.sub y) ∧ |(x.sub y).value - (x.value - y.value)| ≤ roundoff := by
  obtain ⟨s, rounded⟩ := sub_of_isFinite left right
  have exact : x.value - y.value = ((x.units - y.units : Int) : ℚ) / ((1 : Nat) * one) := by
    rw [value, value, Int.cast_sub, Nat.cast_one, one_mul, sub_div]
  rw [rounded, exact]
  exact value_roundSigned s Nat.one_pos (by rwa [Nat.mul_one])

end Binary64

end ClusterPrep
