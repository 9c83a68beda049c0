import ClusterPrep.Proofs.Number.ExactRounding

set_option autoImplicit false

/-
  Which whole numbers lie within the reals: those that round to less than the power of two after the
  greatest real.
-/
namespace ClusterPrep

namespace Number

/-- Rounding goes up to an even number from the half below it on. -/
theorem roundEven_eq_succ_iff {a d k : Nat} (positive : 0 < d) (odd : k % 2 = 1)
    (below : a / d ≤ k) : roundEven a d = k + 1 ↔ (2 * k + 1) * d ≤ 2 * a := by
  have whole : d * (a / d) + a % d = a := Nat.div_add_mod a d
  have rest : a % d < d := Nat.mod_lt a positive
  have half : (2 * k + 1) * d = 2 * (d * k) + d := by ring
  rw [roundEven, half]
  rcases Nat.lt_or_eq_of_le below with low | level
  · have far : d * (a / d) + d ≤ d * k := Nat.mul_le_mul_left d low
    split_ifs <;> omega
  · rw [level] at whole ⊢
    split_ifs <;> omega

theorem div_le_roundEven (a d : Nat) : a / d ≤ roundEven a d := by
  rw [roundEven]
  split_ifs <;> omega

theorem roundEven_le (a d : Nat) : roundEven a d ≤ a / d + 1 := by
  rw [roundEven]
  split_ifs <;> omega

end Number

namespace Binary64

variable {neg : Bool} {m p a d : Nat}

theorem isFinite_pack_iff : (pack neg m p).isFinite = true ↔ NormalForm m p := by
  rw [pack]
  split
  · rename_i normal
    exact iff_of_true rfl normal
  · rename_i unfit
    exact iff_of_false Bool.false_ne_true unfit

/-- The power that rounding takes leaves 53 bits before the point, or fewer at the least power. -/
theorem quotient_bounds (power : (a / d).log2 - 52 = p) :
    a / (d * 2 ^ p) < 2 ^ 53 ∧ (2 ^ 52 ≤ a / (d * 2 ^ p) ∨ p = 0) := by
  rw [← Nat.div_div_eq_div_mul]
  have span : 0 < 2 ^ p := Nat.two_pow_pos p
  constructor
  · rw [Nat.div_lt_iff_lt_mul span, ← Nat.pow_add]
    exact Nat.lt_of_lt_of_le Nat.lt_log2_self (Nat.pow_le_pow_right (by decide) (by omega))
  · rcases Nat.eq_zero_or_pos p with least | above
    · exact .inr least
    · have nonzero : a / d ≠ 0 := by
        intro zero
        rw [zero, Nat.log2_zero] at power
        omega
      rw [Nat.le_div_iff_mul_le span, ← Nat.pow_add, show 52 + p = (a / d).log2 by omega]
      exact .inl (Nat.log2_self_le nonzero)

theorem double_le {p q : Nat} (d : Nat) (less : p < q) : 2 * (d * 2 ^ p) ≤ d * 2 ^ q := by
  have step : 2 ^ (p + 1) ≤ 2 ^ q := Nat.pow_le_pow_right (by decide) less
  rw [Nat.pow_succ] at step
  calc
    2 * (d * 2 ^ p) = d * (2 ^ p * 2) := by ring
    _ ≤ d * 2 ^ q := Nat.mul_le_mul_left d step

/-- Rounding leaves 53 bits, and of a carry beyond them the next power. -/
theorem round_eq (neg : Bool) (a d : Nat) : round neg a d =
    if Number.roundEven a (d * 2 ^ ((a / d).log2 - 52)) = 2 ^ 53
      then pack neg (2 ^ 52) ((a / d).log2 - 52 + 1)
    else pack neg (Number.roundEven a (d * 2 ^ ((a / d).log2 - 52))) ((a / d).log2 - 52) := rfl

/-- Rounding gives a finite number if its power is in range, also after a carry into the next
    power. -/
theorem isFinite_round_iff_power (power : (a / d).log2 - 52 = p) :
    (round neg a d).isFinite = true ↔
      p ≤ 2045 ∧ (Number.roundEven a (d * 2 ^ p) = 2 ^ 53 → p ≤ 2044) := by
  obtain ⟨short, long⟩ := quotient_bounds power
  have least := Number.div_le_roundEven a (d * 2 ^ p)
  have most := Number.roundEven_le a (d * 2 ^ p)
  rw [round_eq, power]
  generalize Number.roundEven a (d * 2 ^ p) = m at least most ⊢
  split
  · rename_i carry
    have inside : Nat.pow 2 52 < Nat.pow 2 53 := by decide
    rw [isFinite_pack_iff]
    constructor
    · rintro ⟨-, -, next⟩
      exact ⟨Nat.le_of_succ_le next, fun _ => Nat.le_of_succ_le_succ next⟩
    · intro within
      exact ⟨inside, .inl (Nat.le_refl _), Nat.succ_le_succ (within.2 carry)⟩
  · rename_i inside
    have below : m < 2 ^ 53 := Nat.lt_of_le_of_ne (Nat.le_trans most short) inside
    rw [isFinite_pack_iff]
    constructor
    · intro normal
      exact ⟨normal.2.2, fun carry => absurd carry inside⟩
    · intro within
      exact ⟨below, long.imp_left fun full => Nat.le_trans full least, within.1⟩

/-- What rounds to a finite number is less than the middle between the greatest real and the power
    of two after it. -/
theorem isFinite_round_iff (positive : 0 < d) :
    (round neg a d).isFinite = true ↔ 2 * a < (2 * (2 ^ 53 - 1) + 1) * (d * 2 ^ 2045) := by
  obtain ⟨p, power⟩ : ∃ p, (a / d).log2 - 52 = p := ⟨_, rfl⟩
  obtain ⟨short, long⟩ := quotient_bounds power
  have span : 0 < d * 2 ^ p := Nat.mul_pos positive (Nat.two_pow_pos p)
  have carried : Number.roundEven a (d * 2 ^ p) = 2 ^ 53 ↔
      (2 * (2 ^ 53 - 1) + 1) * (d * 2 ^ p) ≤ 2 * a :=
    Number.roundEven_eq_succ_iff span (by decide) (Nat.le_pred_of_lt short)
  have upper : a < 2 ^ 53 * (d * 2 ^ p) := (Nat.div_lt_iff_lt_mul span).mp short
  rw [isFinite_round_iff_power power, carried]
  rcases Nat.lt_trichotomy p 2045 with low | rfl | high
  · have wide := double_le d low
    generalize d * 2 ^ 2045 = beyond at wide ⊢
    omega
  · generalize d * 2 ^ 2045 = beyond
    omega
  · have wide := double_le d high
    have above : 2 ^ 52 * (d * 2 ^ p) ≤ a :=
      (Nat.le_div_iff_mul_le span).mp (long.resolve_right (by omega))
    generalize d * 2 ^ 2045 = beyond at wide ⊢
    omega

/-- The middle between the greatest real and the power of two after it. -/
theorem middle_eq :
    (2 * (2 ^ 53 - 1) + 1) * (1 * 2 ^ 2045) = 2 * ((2 ^ 1024 - 2 ^ 970) * one) := by
  decide +kernel

/-- The whole numbers within the reals. -/
theorem isFinite_ofInt_iff {i : Int} :
    (ofInt i).isFinite = true ↔ i.natAbs < 2 ^ 1024 - 2 ^ 970 := by
  rw [ofInt, ofFraction, isFinite_round_iff Nat.one_pos, middle_eq,
    Nat.mul_lt_mul_left Nat.two_pos, Nat.mul_lt_mul_right one_pos]

theorem ofInt?_of_within {i : Int} (within : i.natAbs < 2 ^ 1024 - 2 ^ 970) :
    ofInt? i = .ok (ofInt i) :=
  unlessInfinite_of_isFinite (isFinite_ofInt_iff.mpr within) _

theorem ofInt?_of_beyond {i : Int} (beyond : 2 ^ 1024 - 2 ^ 970 ≤ i.natAbs) :
    ofInt? i = .error .realOfLargeInteger := by
  have unfit : (ofInt i).isFinite ≠ true :=
    fun finite => Nat.not_le_of_lt (isFinite_ofInt_iff.mp finite) beyond
  rw [ofInt?]
  cases rounded : ofInt i with
  | nan => exact absurd rounded (ofInt_ne_nan i)
  | inf neg => rfl
  | finite neg m p normal => exact absurd (by rw [rounded]; rfl) unfit

end Binary64

end ClusterPrep
