import ClusterPrep.Proofs.Number.Order
import ClusterPrep.Proofs.Number.Range

set_option autoImplicit false

/-
  Amounts, which are the finite numbers from zero on. A share of an amount is an amount, and so is
  its root; only what scales it up can lead beyond the reals.
-/
namespace ClusterPrep.Binary64

/-- A finite number from zero on. -/
structure IsAmount (x : Binary64) : Prop where
  finite : x.isFinite = true
  least : 0 ≤ x.units

theorem zero_le_iff_isAmount {x : Binary64} :
    zero.le x = true ↔ x.IsAmount ∨ x = inf false := by
  rw [zero_le_iff]
  exact or_congr_left ⟨fun ⟨within, least⟩ => ⟨within, least⟩,
    fun amount => ⟨amount.finite, amount.least⟩⟩

/-- A number proper that is not from zero on is below it. -/
theorem lt_zero_of_not_zero_le {x : Binary64} (number : x ≠ nan) (outside : zero.le x = false) :
    x.lt zero = true := by
  have outside : ¬ (x.IsAmount ∨ x = inf false) := by
    rw [← zero_le_iff_isAmount, outside]
    decide
  cases x with
  | nan => exact absurd rfl number
  | inf neg =>
      cases neg with
      | false => exact absurd (.inr rfl) outside
      | true =>
          rw [zero_eq]
          rfl
  | finite neg m p normal =>
      rw [lt_iff_units rfl isFinite_zero, units_zero]
      by_contra least
      exact outside (.inl ⟨rfl, Int.not_lt.mp least⟩)

theorem lt_zero_of_zero_le {x : Binary64} (least : zero.le x = true) : x.lt zero = false := by
  rw [Bool.eq_false_iff]
  intro negative
  rcases zero_le_iff_isAmount.mp least with amount | rfl
  · rw [lt_iff_units amount.finite isFinite_zero, units_zero] at negative
    exact absurd amount.least (Int.not_le.mpr negative)
  · rw [zero_eq] at negative
    cases negative

/-! ### The greatest number -/

/-- The greatest number, in units. -/
def greatest : Nat := (2 ^ 53 - 1) * 2 ^ 2045

theorem natAbs_units {neg : Bool} {m p : Nat} (normal : NormalForm m p) :
    (finite neg m p normal).units.natAbs = m * 2 ^ p := by
  cases neg with
  | false => exact Int.natAbs_natCast _
  | true => exact (Int.natAbs_neg _).trans (Int.natAbs_natCast _)

theorem natAbs_units_le {x : Binary64} (finite : x.isFinite = true) :
    x.units.natAbs ≤ greatest := by
  cases x with
  | nan => cases finite
  | inf neg => cases finite
  | finite neg m p normal =>
      rw [natAbs_units, greatest]
      obtain ⟨below, -, most⟩ := normal
      exact Nat.mul_le_mul (Nat.le_sub_one_of_lt below) (pow_le_pow_right₀ (by decide) most)

theorem isFinite_round_of_le {neg : Bool} {a d : Nat} (positive : 0 < d) (le : a ≤ greatest * d) :
    (round neg a d).isFinite = true := by
  have span : 0 < d * 2 ^ 2045 := Nat.mul_pos positive (by positivity)
  have most : greatest * d = (2 ^ 53 - 1) * (d * 2 ^ 2045) := by
    rw [greatest, Nat.mul_assoc, Nat.mul_comm d]
  rw [isFinite_round_iff positive]
  rw [most] at le
  generalize d * 2 ^ 2045 = beyond at span le ⊢
  omega

theorem greatest_lt : greatest < (2 ^ 1024 - 2 ^ 970) * one := by
  decide +kernel

theorem one_lt_greatest : one < greatest := by
  decide +kernel

/-! ### Rounding to an amount -/

section

variable {a d : Nat}

theorem isAmount_pack_zero (neg : Bool) : (pack neg 0 0).IsAmount := by
  have normal : NormalForm 0 0 := by decide
  rw [pack_of_normal normal]
  exact ⟨rfl, by cases neg <;> exact Int.le_refl 0⟩

/-- What is rounded without a sign is an amount or infinite. -/
theorem isAmount_round_or (a d : Nat) :
    (round false a d).IsAmount ∨ round false a d = inf false := by
  have packed (m p : Nat) : (pack false m p).IsAmount ∨ pack false m p = inf false := by
    rw [pack]
    split
    · exact .inl ⟨rfl, Int.natCast_nonneg _⟩
    · exact .inr rfl
  rw [round]
  split
  · exact packed _ _
  · exact packed _ _

theorem isAmount_round (finite : (round false a d).isFinite = true) :
    (round false a d).IsAmount := by
  refine (isAmount_round_or a d).resolve_right fun infinite => ?_
  rw [infinite] at finite
  cases finite

variable {s : Bool} {u : Int}

theorem isAmount_roundSigned_or (least : 0 ≤ u) :
    (roundSigned s u d).IsAmount ∨ roundSigned s u d = inf false := by
  rw [roundSigned]
  split
  · exact .inl (isAmount_pack_zero s)
  · rw [decide_eq_false (Int.not_lt.mpr least)]
    exact isAmount_round_or _ _

theorem isFinite_roundSigned_iff (positive : 0 < d) :
    (roundSigned s u d).isFinite = true ↔
      2 * u.natAbs < (2 * (2 ^ 53 - 1) + 1) * (d * 2 ^ 2045) := by
  rw [roundSigned]
  split
  · rename_i none
    rw [none]
    refine iff_of_true (isAmount_pack_zero s).finite ?_
    exact Nat.mul_pos (by decide) (Nat.mul_pos positive (by positivity))
  · exact isFinite_round_iff positive

end

/-! ### Operations on amounts -/

theorem mul_of_isFinite {x y : Binary64} (left : x.isFinite = true) (right : y.isFinite = true) :
    ∃ s, x.mul y = roundSigned s (x.units * y.units) one := by
  cases x with
  | nan => cases left
  | inf s => cases left
  | finite s m p normal =>
      cases y with
      | nan => cases right
      | inf t => cases right
      | finite t m' p' normal' => exact ⟨_, rfl⟩

namespace IsAmount

theorem sign_eq_false {neg : Bool} {m p : Nat} {normal : NormalForm m p}
    (amount : (Binary64.finite neg m p normal).IsAmount) (nonzero : m ≠ 0) : neg = false := by
  have positive : 0 < m * 2 ^ p := Nat.mul_pos (Nat.pos_of_ne_zero nonzero) (Nat.two_pow_pos p)
  have least := amount.least
  cases neg with
  | false => rfl
  | true =>
      have least : 0 ≤ -((m * 2 ^ p : Nat) : Int) := least
      omega

variable {x y : Binary64}

theorem mul_or (left : x.IsAmount) (right : y.IsAmount) :
    (x.mul y).IsAmount ∨ x.mul y = inf false := by
  obtain ⟨s, product⟩ := mul_of_isFinite left.finite right.finite
  rw [product]
  exact isAmount_roundSigned_or (Int.mul_nonneg left.least right.least)

/-- A share of an amount is an amount. -/
theorem mul_share (amount : x.IsAmount) (share : y.IsAmount) (most : y.units ≤ one) :
    (x.mul y).IsAmount := by
  refine (amount.mul_or share).resolve_right fun infinite => ?_
  obtain ⟨s, product⟩ := mul_of_isFinite amount.finite share.finite
  have part : (x.units * y.units).natAbs ≤ greatest * one := by
    rw [Int.natAbs_mul]
    have least := share.least
    exact Nat.mul_le_mul (natAbs_units_le amount.finite) (by omega)
  have finite : (x.mul y).isFinite = true := by
    rw [product, roundSigned]
    split
    · exact (isAmount_pack_zero s).finite
    · exact isFinite_round_of_le one_pos part
  rw [infinite] at finite
  cases finite

/-- The root of a number of units is far from the greatest number. -/
theorem isAmount_root {n : Nat} (most : n ≤ greatest * one) :
    (round false (2 * Number.sqrt n + if Number.sqrt n * Number.sqrt n = n then 0 else 1)
      2).IsAmount := by
  obtain ⟨lower, -⟩ := Number.sqrt_bounds n
  have small : Number.sqrt n < greatest := by
    by_contra large
    have large := Nat.le_of_not_lt large
    have square : greatest * greatest ≤ greatest * one :=
      Nat.le_trans (Nat.mul_le_mul large large) (Nat.le_trans lower most)
    have positive : 0 < greatest := Nat.lt_trans one_pos one_lt_greatest
    exact absurd (Nat.le_of_mul_le_mul_left square positive) (Nat.not_le.mpr one_lt_greatest)
  refine isAmount_round (isFinite_round_of_le Nat.two_pos ?_)
  split <;> omega

/-- The root of an amount is an amount. -/
theorem sqrt (amount : x.IsAmount) : x.sqrt.IsAmount := by
  have most := natAbs_units_le amount.finite
  cases x with
  | nan => cases amount.finite
  | inf neg => cases amount.finite
  | finite neg m p normal =>
      rw [Binary64.sqrt]
      split
      · exact amount
      · rename_i nonzero
        cases amount.sign_eq_false nonzero
        rw [if_neg Bool.false_ne_true]
        exact isAmount_root (Nat.mul_le_mul_right one most)

/-- An amount is not made greater by a divisor from one on. -/
theorem div (amount : x.IsAmount) (finite : y.isFinite = true) (large : (one : Int) ≤ y.units) :
    (x.div y).IsAmount := by
  have most := natAbs_units_le amount.finite
  have positive := one_pos
  have divisor : y.IsAmount := ⟨finite, by omega⟩
  cases x with
  | nan => cases amount.finite
  | inf s => cases amount.finite
  | finite s m p normal =>
      cases y with
      | nan => cases finite
      | inf t => cases finite
      | finite t m' p' normal' =>
          have nonzero' : m' ≠ 0 := by
            rintro rfl
            have none : (Binary64.finite t 0 p' normal').units = 0 := by
              rw [units, Nat.zero_mul]
              cases t <;> rfl
            omega
          rw [Binary64.div]
          split
          · rename_i zero
            exact absurd (beq_iff_eq.mp zero) nonzero'
          · split
            · exact isAmount_pack_zero _
            · rename_i nonzero
              cases amount.sign_eq_false fun zero => nonzero (beq_iff_eq.mpr zero)
              cases divisor.sign_eq_false nonzero'
              refine isAmount_round (isFinite_round_of_le (by omega) ?_)
              exact Nat.mul_le_mul most (by omega)

/-- An amount has a whole part, which is within the reals. -/
theorem floor (amount : x.IsAmount) :
    ∃ n : Int, x.floor = .ok n ∧ 0 ≤ n ∧ (ofInt n).isFinite = true := by
  have most := natAbs_units_le amount.finite
  have least := amount.least
  have whole : x.floor = .ok (x.units / (one : Int)) := by
    cases x with
    | nan => cases amount.finite
    | inf neg => cases amount.finite
    | finite neg m p normal => rfl
  have part : 0 ≤ x.units / (one : Int) := Int.ediv_nonneg least (Int.natCast_nonneg one)
  refine ⟨_, whole, part, isFinite_ofInt_iff.mpr ?_⟩
  have below : x.units < ((2 ^ 1024 - 2 ^ 970 : Nat) : Int) * (one : Int) := by
    have limit := greatest_lt
    rw [← Nat.cast_mul]
    omega
  have below := Int.ediv_lt_of_lt_mul (Int.natCast_pos.mpr one_pos) below
  omega

end IsAmount

/-! ### Beyond the reals -/

section

variable {y : Binary64} (finite : y.isFinite = true) (positive : 0 < y.units)
include finite

theorem inf_lt : (inf false).lt y = false := by
  cases y with
  | nan => cases finite
  | inf neg => cases finite
  | finite neg m p normal => rfl

include positive

theorem exists_of_positive : ∃ m p normal, y = Binary64.finite false m p normal ∧ m ≠ 0 := by
  have amount : y.IsAmount := ⟨finite, Int.le_of_lt positive⟩
  cases y with
  | nan => cases finite
  | inf neg => cases finite
  | finite neg m p normal =>
      have nonzero : m ≠ 0 := by
        rintro rfl
        cases neg <;> simp [units] at positive
      cases amount.sign_eq_false nonzero
      exact ⟨m, p, normal, rfl, nonzero⟩

theorem inf_mul : (inf false).mul y = inf false := by
  obtain ⟨m, p, normal, rfl, nonzero⟩ := exists_of_positive finite positive
  simp [mul, isZero, isNegative, nonzero]

theorem inf_div : (inf false).div y = inf false := by
  obtain ⟨m, p, normal, rfl, nonzero⟩ := exists_of_positive finite positive
  simp [div, isZero, isNegative, nonzero]

end

/-! ### Scaling up -/

/-- The greatest number below a power of two. -/
theorem le_of_normalForm {m p k : Nat} (normal : NormalForm m p)
    (below : m * 2 ^ p < 2 ^ 53 * 2 ^ k) : m * 2 ^ p ≤ (2 ^ 53 - 1) * 2 ^ k := by
  obtain ⟨short, long, -⟩ := normal
  have low : p ≤ k := by
    by_contra high
    have full : 2 ^ 52 ≤ m := long.resolve_right (by omega)
    have wide : 2 ^ (k + 1) ≤ 2 ^ p := Nat.pow_le_pow_right Nat.two_pos (by omega)
    have above := Nat.mul_le_mul full wide
    rw [Nat.pow_succ] at above
    omega
  exact Nat.mul_le_mul (Nat.le_sub_one_of_lt short) (Nat.pow_le_pow_right Nat.two_pos low)

theorem units_le_of_lt {x : Binary64} (finite : x.isFinite = true) {k : Nat}
    (below : x.units.natAbs < 2 ^ 53 * 2 ^ k) : x.units.natAbs ≤ (2 ^ 53 - 1) * 2 ^ k := by
  cases x with
  | nan => cases finite
  | inf neg => cases finite
  | finite neg m p normal =>
      rw [natAbs_units] at below ⊢
      exact le_of_normalForm normal below

/-- Scaled up by a power of two, the amounts below some power of two stay within the reals. -/
theorem isFinite_mul_pow_iff {x y : Binary64} (amount : x.IsAmount) (finite : y.isFinite = true)
    {k : Nat} (within : k ≤ 1024) (scale : y.units = ((2 ^ k * one : Nat) : Int)) :
    (x.mul y).isFinite = true ↔ x.units < ((2 ^ (1024 - k) * one : Nat) : Int) := by
  obtain ⟨s, product⟩ := mul_of_isFinite amount.finite finite
  obtain ⟨j, rest⟩ : ∃ j, 2045 = j + k := ⟨2045 - k, by omega⟩
  have span : 0 < 2 ^ k * one := Nat.mul_pos (Nat.two_pow_pos k) one_pos
  have scaled : 2 * (x.units * y.units).natAbs = 2 * x.units.natAbs * (2 ^ k * one) := by
    rw [Int.natAbs_mul, scale, Int.natAbs_natCast, Nat.mul_assoc]
  have middle : (2 * (2 ^ 53 - 1) + 1) * (one * 2 ^ 2045) =
      (2 * (2 ^ 53 - 1) + 1) * 2 ^ j * (2 ^ k * one) := by
    rw [rest, pow_add]
    ring
  have limit : 2 ^ (1024 - k) * one = 2 ^ 53 * 2 ^ j := by
    have exponents : 1024 - k + 1074 = 53 + j := by omega
    rw [one_bounds.1, ← pow_add, ← pow_add, exponents]
  rw [product, isFinite_roundSigned_iff one_pos, scaled, middle, Nat.mul_lt_mul_right span, limit]
  have least := amount.least
  have gap := units_le_of_lt (k := j) amount.finite
  generalize 2 ^ j = power at gap ⊢
  omega

end ClusterPrep.Binary64
