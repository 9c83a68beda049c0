set_option autoImplicit false

/-
  Whole-number division rounded to nearest, and the whole square root.
-/
namespace ClusterPrep.Number

/-- The whole number nearest to `a / d`; of two equally near ones the even one. -/
def roundEven (a d : Nat) : Nat :=
  let q := a / d
  let r := a % d
  if 2 * r < d then q
  else if d < 2 * r then q + 1
  else if q % 2 = 0 then q
  else q + 1

/-- The whole square root of `n` for `n < 4 ^ k`. -/
def sqrtBelow : Nat → Nat → Nat
  | 0, _ => 0
  | k + 1, n =>
    let r := 2 * sqrtBelow k (n / 4)
    if (r + 1) * (r + 1) ≤ n then r + 1 else r

/-- The greatest whole number whose square is at most `n`. -/
def sqrt (n : Nat) : Nat := sqrtBelow (n.log2 / 2 + 1) n

theorem sqrtBelow_bounds (k : Nat) : ∀ n, n < Nat.pow 4 k →
    sqrtBelow k n * sqrtBelow k n ≤ n ∧ n < (sqrtBelow k n + 1) * (sqrtBelow k n + 1) := by
  induction k with
  | zero => intro n h; simp at h; subst h; decide
  | succ k ih =>
    intro n h
    have hq : n / 4 < Nat.pow 4 k := by
      have hs : n < Nat.pow 4 k * 4 := h
      omega
    obtain ⟨lo, hi⟩ := ih (n / 4) hq
    unfold sqrtBelow
    generalize sqrtBelow k (n / 4) = r at lo hi
    have e1 : 2 * r * (2 * r) = 4 * (r * r) := by
      rw [Nat.mul_mul_mul_comm]
    have e2 : (2 * r + 1) * (2 * r + 1) = 4 * (r * r) + 4 * r + 1 := by
      simp only [Nat.add_mul, Nat.mul_add, e1]; omega
    have e3 : (2 * r + 1 + 1) * (2 * r + 1 + 1) = 4 * ((r + 1) * (r + 1)) := by
      have : 2 * r + 1 + 1 = 2 * (r + 1) := by omega
      rw [this, Nat.mul_mul_mul_comm]
    dsimp only
    split
    · rename_i hs; exact ⟨hs, by omega⟩
    · rename_i hs; exact ⟨by omega, by omega⟩

/-- The square of `sqrt n` is at most `n`, and that of the next number is greater. -/
theorem sqrt_bounds (n : Nat) : sqrt n * sqrt n ≤ n ∧ n < (sqrt n + 1) * (sqrt n + 1) := by
  apply sqrtBelow_bounds
  rcases Nat.eq_zero_or_pos n with h | h
  · subst h; decide
  · have h1 : n < 2 ^ (n.log2 + 1) := Nat.lt_log2_self
    have h2 : (4 : Nat) ^ (n.log2 / 2 + 1) = 2 ^ (2 * (n.log2 / 2 + 1)) := by
      rw [Nat.pow_mul]
    change n < 4 ^ (n.log2 / 2 + 1)
    rw [h2]
    exact Nat.lt_of_lt_of_le h1 (Nat.pow_le_pow_right (by decide) (by omega))

end ClusterPrep.Number
