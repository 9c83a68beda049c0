import ClusterPrep.Proofs.Number.Roundoff
import ClusterPrep.Proofs.Number.Scaling

set_option autoImplicit false

/-
  Whole numbers as reals. A real keeps the first 53 bits of a whole number and rounds the others
  away; and a real whole number is divided by a power of two without any further rounding.
-/
namespace ClusterPrep

namespace Number

/-- Dividend and divisor may be scaled alike. -/
theorem roundEven_mul_right (a d : Nat) {k : Nat} (positive : 0 < k) :
    roundEven (a * k) (d * k) = roundEven a d := by
  have below : 2 * (a % d * k) < d * k ↔ 2 * (a % d) < d := by
    rw [← Nat.mul_assoc, Nat.mul_lt_mul_right positive]
  have above : d * k < 2 * (a % d * k) ↔ d < 2 * (a % d) := by
    rw [← Nat.mul_assoc, Nat.mul_lt_mul_right positive]
  simp only [roundEven, Nat.mul_div_mul_right _ _ positive, Nat.mul_mod_mul_right, below, above]

end Number

namespace Binary64

variable {neg : Bool} {a d n : Nat}

/-- What the last of the 53 bits that are kept of a whole number is worth. -/
def lastBit (n : Nat) : Nat := 2 ^ (n.log2 - 52)

/-- The real whole number nearest to a whole number; of two equally near ones, the one whose last
    bit is zero. -/
def nearest (n : Nat) : Nat := Number.roundEven n (lastBit n) * lastBit n

theorem lastBit_pos (n : Nat) : 0 < lastBit n := Nat.two_pow_pos _

theorem lastBit_of_lt (short : n < 2 ^ 53) : lastBit n = 1 := by
  have bits : n.log2 ≤ 52 := by
    by_cases zero : n = 0
    · rw [zero, Nat.log2_zero]
      exact Nat.zero_le 52
    · have bits := (Nat.log2_lt zero).mpr short
      omega
  rw [lastBit, Nat.sub_eq_zero_of_le bits, Nat.pow_zero]

/-- Up to 53 bits all of them are kept. -/
theorem nearest_of_lt (short : n < 2 ^ 53) : nearest n = n := by
  have exact := Number.roundEven_mul_self n 1 Nat.one_pos
  rw [Nat.mul_one] at exact
  rw [nearest, lastBit_of_lt short, exact, Nat.mul_one]

/-- Rounding goes no further than half of the last bit. -/
theorem nearest_near (n : Nat) :
    2 * nearest n ≤ 2 * n + lastBit n ∧ 2 * n ≤ 2 * nearest n + lastBit n :=
  Number.roundEven_near (lastBit_pos n)

/-- No number is less than half of it as a real. -/
theorem le_two_mul_nearest (n : Nat) : n ≤ 2 * nearest n := by
  by_cases short : n < 2 ^ 53
  · rw [nearest_of_lt short]
    omega
  · have small : lastBit n ≤ n := by
      have power : lastBit n ≤ 2 ^ n.log2 := Nat.pow_le_pow_right (by decide) (Nat.sub_le _ _)
      exact Nat.le_trans power (Nat.log2_self_le (by omega))
    have near := (nearest_near n).2
    omega

/-- The value of a rounded fraction of units. -/
theorem units_round_of_isFinite (finite : (round false a d).isFinite = true) :
    (round false a d).units =
      ((Number.roundEven a (d * 2 ^ ((a / d).log2 - 52)) * 2 ^ ((a / d).log2 - 52) : Nat) :
        Int) := by
  rw [round_eq] at finite ⊢
  generalize (a / d).log2 - 52 = p at finite ⊢
  generalize Number.roundEven a (d * 2 ^ p) = m at finite ⊢
  split at finite
  · rename_i carry
    rw [if_pos carry, units_pack (isFinite_pack_iff.mp finite), carry, if_neg Bool.false_ne_true]
    ring_nf
  · rename_i inside
    rw [if_neg inside, units_pack (isFinite_pack_iff.mp finite), if_neg Bool.false_ne_true]

theorem log2_mul_pow (positive : 0 < n) (k : Nat) : (n * 2 ^ k).log2 = n.log2 + k := by
  have nonzero : n ≠ 0 := Nat.ne_of_gt positive
  have span : 0 < 2 ^ k := Nat.two_pow_pos k
  refine (Nat.log2_eq_iff (Nat.mul_ne_zero nonzero (Nat.ne_of_gt span))).mpr ⟨?_, ?_⟩
  · rw [Nat.pow_add]
    exact Nat.mul_le_mul_right _ (Nat.log2_self_le nonzero)
  · rw [Nat.add_right_comm, Nat.pow_add]
    exact Nat.mul_lt_mul_of_pos_right Nat.lt_log2_self span

/-- On the grid of the units, too, a whole number is rounded to its nearest real. -/
theorem roundEven_mul_one (n : Nat) :
    Number.roundEven (n * one) (2 ^ ((n * one).log2 - 52)) * 2 ^ ((n * one).log2 - 52) =
      nearest n * one := by
  rcases Nat.eq_zero_or_pos n with rfl | positive
  · rw [nearest_of_lt (by decide), Nat.zero_mul, Nat.log2_zero]
    rfl
  have bits : (n * one).log2 = n.log2 + 1074 := by rw [one_bounds.1, log2_mul_pow positive]
  rw [bits]
  by_cases long : 52 ≤ n.log2
  · -- The bits that are rounded away are those of the whole number.
    have power : 2 ^ (n.log2 + 1074 - 52) = lastBit n * one := by
      have exponent : n.log2 + 1074 - 52 = n.log2 - 52 + 1074 := by omega
      rw [lastBit, one_bounds.1, ← Nat.pow_add, exponent]
    rw [power, Number.roundEven_mul_right _ _ one_pos, nearest, Nat.mul_assoc]
  · have short : n < 2 ^ 53 := by
      have bits : n.log2 < 53 := by omega
      exact (Nat.log2_lt (Nat.ne_of_gt positive)).mp bits
    have scaled : n * one = n * 2 ^ (52 - n.log2) * 2 ^ (n.log2 + 1074 - 52) := by
      have exponent : 52 - n.log2 + (n.log2 + 1074 - 52) = 1074 := by omega
      rw [one_bounds.1, Nat.mul_assoc, ← Nat.pow_add, exponent]
    rw [nearest_of_lt short, scaled, Number.roundEven_mul_self _ _ (Nat.two_pow_pos _)]

/-- **The real of a whole number is the nearest real whole number.** -/
theorem units_ofInt (within : n < 2 ^ 1024 - 2 ^ 970) :
    (ofInt n).units = ((nearest n * one : Nat) : Int) := by
  have finite : (ofInt n).isFinite = true := by
    rw [isFinite_ofInt_iff, Int.natAbs_natCast]
    exact within
  have whole : ofInt n = round false (n * one) 1 := by
    rw [ofInt, ofFraction, decide_eq_false (Int.not_lt.mpr (Int.natCast_nonneg n)),
      Int.natAbs_natCast]
  rw [whole] at finite
  rw [whole, units_round_of_isFinite finite, Nat.div_one, Nat.one_mul, roundEven_mul_one]

theorem truncate_pack_zero (neg : Bool) : (pack neg 0 0).truncate = .ok 0 := by
  have normal : NormalForm 0 0 := by decide
  have nothing : (finite neg 0 0 normal).units = 0 := by
    cases neg with
    | false => rfl
    | true => rfl
  rw [pack_of_normal normal]
  change Except.ok ((finite neg 0 0 normal).units.tdiv one) = _
  rw [nothing, Int.zero_tdiv]

theorem lt_of_pow_le {m p j k l : Nat} (short : m < 2 ^ j) (bits : j + k ≤ l)
    (long : 2 ^ l ≤ m * 2 ^ p) : k < p := by
  by_contra low
  have least : 2 ^ (j + k) ≤ 2 ^ l := Nat.pow_le_pow_right (by decide) bits
  have most : 2 ^ p ≤ 2 ^ k := Nat.pow_le_pow_right (by decide) (Nat.le_of_not_lt low)
  have below : m * 2 ^ p < 2 ^ j * 2 ^ k :=
    Nat.mul_lt_mul_of_lt_of_le short most (Nat.two_pow_pos k)
  rw [← Nat.pow_add] at below
  exact absurd (Nat.le_trans least long) (Nat.not_le.mpr below)

/-- A real whole number is divided by a power of two without any further rounding. -/
theorem truncate_mul {x y : Binary64} {k share : Nat} (finite : x.isFinite = true)
    (whole : x.units = ((n * one : Nat) : Int)) (part : y.isFinite = true)
    (units : y.units = (share : Int)) (unit : one = 2 ^ k * share) (small : k ≤ 1021) :
    (x.mul y).truncate = .ok ((n / 2 ^ k : Nat) : Int) := by
  obtain ⟨s, product⟩ := mul_of_isFinite finite part
  rw [whole, units, ← Int.natCast_mul] at product
  rcases Nat.eq_zero_or_pos n with rfl | positive
  · rw [product, Nat.zero_mul, Nat.zero_mul, Nat.zero_div, roundSigned, if_pos Int.natCast_zero,
      truncate_pack_zero]
    rfl
  cases x with
  | nan => cases finite
  | inf neg => cases finite
  | finite neg m p normal =>
      have bits : n * one = m * 2 ^ p := by
        have magnitude : (Binary64.finite neg m p normal).units.natAbs = m * 2 ^ p :=
          natAbs_units normal
        rw [← magnitude, whole, Int.natAbs_natCast]
      have power : 1021 < p := by
        have long : one ≤ m * 2 ^ p := bits ▸ Nat.le_mul_of_pos_left one positive
        rw [one_bounds.1] at long
        exact lt_of_pow_le normal.1 (by decide) long
      have full : 2 ^ 52 ≤ m := normal.2.1.resolve_right (by omega)
      have normal' : NormalForm m (p - k) :=
        ⟨normal.1, .inl full, Nat.le_trans (Nat.sub_le p k) normal.2.2⟩
      -- Of the significand nothing is lost: only the power becomes less.
      have quotient : m * 2 ^ (p - k) = n * share := by
        have split : 2 ^ p = 2 ^ k * 2 ^ (p - k) := by
          rw [← Nat.pow_add, Nat.add_sub_of_le (by omega)]
        apply Nat.eq_of_mul_eq_mul_left (Nat.two_pow_pos k)
        calc
          2 ^ k * (m * 2 ^ (p - k)) = m * 2 ^ p := by rw [split]; ring
          _ = n * one := bits.symm
          _ = 2 ^ k * (n * share) := by rw [unit]; ring
      have exact : n * one * share = m * 2 ^ (p - k) * one := by
        rw [quotient, Nat.mul_right_comm]
      have above : 0 < share := by
        have positive := one_pos
        rw [unit] at positive
        exact Nat.pos_of_mul_pos_left positive
      have nonzero : ((n * one * share : Nat) : Int) ≠ 0 :=
        Int.natCast_ne_zero.mpr (Nat.mul_pos (Nat.mul_pos positive one_pos) above).ne'
      have rounded : (Binary64.finite neg m p normal).mul y = .finite false m (p - k) normal' := by
        rw [product, roundSigned, if_neg nonzero,
          decide_eq_false (Int.not_lt.mpr (Int.natCast_nonneg _)), Int.natAbs_natCast]
        exact round_of_exact normal' one_pos exact
      have value : (Binary64.finite false m (p - k) normal').units = ((n * share : Nat) : Int) := by
        rw [← quotient]
        rfl
      rw [rounded]
      change Except.ok ((Binary64.finite false m (p - k) normal').units.tdiv one) = _
      rw [value, unit, ← Int.ofNat_tdiv, Nat.mul_div_mul_right _ _ above]

end Binary64

end ClusterPrep
