import ClusterPrep.Proofs.Attempt
import ClusterPrep.Proofs.Number.Difference

set_option autoImplicit false

/-
  Numbers of both kinds compared, and products of numbers above zero: such a product is a number,
  since no infinity meets a zero in it.
-/
namespace ClusterPrep

namespace Binary64

variable {x y : Binary64}

theorem roundSigned_ne_nan (zeroNeg : Bool) (u : Int) (d : Nat) :
    roundSigned zeroNeg u d ≠ nan := by
  rw [roundSigned]
  split
  · exact pack_ne_nan _ _ _
  · exact round_ne_nan _ _ _

theorem isZero_of_zero_lt (above : zero.lt x = true) : x.isZero = false := by
  cases x with
  | nan => rfl
  | inf neg => rfl
  | finite neg m p normal =>
      rw [lt_iff_units isFinite_zero rfl, units_zero] at above
      have nonzero : m ≠ 0 := by
        rintro rfl
        simp [units] at above
      simpa [isZero] using nonzero

theorem ne_nan_of_zero_lt (above : zero.lt x = true) : x ≠ nan := by
  rintro rfl
  rw [zero_eq] at above
  cases above

/-- A whole number above zero stays above zero as a real. -/
theorem zero_lt_ofInt {i : Int} (above : 0 < i) : zero.lt (ofInt i) = true := by
  have one_le : 1 ≤ i.natAbs * one := Nat.mul_pos (by omega) one_pos
  have side : decide (i < 0) = false := decide_eq_false (by omega)
  rw [ofInt, ofFraction, (sign_round Nat.one_pos one_le).2, side]
  rfl

theorem mul_ne_nan (left : zero.lt x = true) (right : zero.lt y = true) : x.mul y ≠ nan := by
  have some := isZero_of_zero_lt left
  have some' := isZero_of_zero_lt right
  cases x with
  | nan => exact absurd rfl (ne_nan_of_zero_lt left)
  | inf s =>
      cases y with
      | nan => exact absurd rfl (ne_nan_of_zero_lt right)
      | inf t => simp [mul, isZero]
      | finite t m p normal => simp [mul, some']
  | finite s m p normal =>
      cases y with
      | nan => exact absurd rfl (ne_nan_of_zero_lt right)
      | inf t => simp [mul, some]
      | finite t m' p' normal' => exact roundSigned_ne_nan _ _ _

end Binary64

namespace Number

/-- Above zero, whatever the kind. -/
def IsPositive : Number → Prop
  | int i => 0 < i
  | real x => Binary64.zero.lt x = true

/-- Two numbers proper compare one way or the other. -/
theorem le_eq_not_lt {a b : Number} (left : a ≠ real .nan) (right : b ≠ real .nan) :
    a.le b = !b.lt a := by
  have units (i j : Int) : (decide (i < j) || decide (i = j)) = !decide (j < i) := by
    rw [← decide_not, ← Bool.decide_or]
    exact decide_eq_decide.mpr (by omega)
  cases a with
  | int i =>
      cases b with
      | int j => exact units i j
      | real y =>
          cases y with
          | nan => exact absurd rfl right
          | inf t => cases t <;> rfl
          | finite t m p normal =>
              simp only [le, lt, eq, Binary64.isFinite, Bool.true_and]
              rw [← units]
              simp only [eq_comm]
  | real x =>
      cases x with
      | nan => exact absurd rfl left
      | inf s =>
          cases b with
          | int j => cases s <;> rfl
          | real y =>
              cases y with
              | nan => exact absurd rfl right
              | inf t => cases s <;> cases t <;> rfl
              | finite t m p normal => cases s <;> rfl
      | finite s m p normal =>
          cases b with
          | int j =>
              simp only [le, lt, eq, Binary64.isFinite, Bool.true_and]
              exact units _ _
          | real y =>
              cases y with
              | nan => exact absurd rfl right
              | inf t => cases t <;> rfl
              | finite t m' p' normal' => exact units _ _

/-- A number is above zero unless it is at most zero or not a number. -/
theorem isPositive_iff {n : Number} (proper : n ≠ real .nan) :
    n.IsPositive ↔ n.le (int 0) = false := by
  rw [le_eq_not_lt proper (by simp), Bool.not_eq_false']
  cases n with
  | int i => simp [IsPositive, lt]
  | real x =>
      cases x with
      | nan => exact absurd rfl proper
      | inf s => cases s <;> simp [IsPositive, lt, Binary64.zero_eq, Binary64.lt]
      | finite s m p normal =>
          rw [IsPositive, Binary64.lt_iff_units Binary64.isFinite_zero rfl, Binary64.units_zero]
          change _ ↔ decide ((0 : Int) * Binary64.one < _) = true
          rw [Int.zero_mul, decide_eq_true_iff]

theorem zero_lt_of_toReal {n : Number} {x : Binary64} (above : n.IsPositive)
    (real : n.toReal = .ok x) : Binary64.zero.lt x = true := by
  cases n with
  | int i =>
      have positive := Binary64.zero_lt_ofInt above
      rw [toReal, Binary64.ofInt?] at real
      cases rounded : Binary64.ofInt i <;> rw [rounded] at real positive <;> cases real <;>
        exact positive
  | real y =>
      cases real
      exact above

/-- A product is whole for two whole numbers, and a real otherwise. -/
theorem mul_cases {a b n : Number} (product : a.mul b = .ok n) :
    (∃ i, n = int i) ∨
      ∃ x y, a.toReal = .ok x ∧ b.toReal = .ok y ∧ n = real (x.mul y) := by
  have mixed (made : (do
      let x ← a.toReal
      let y ← b.toReal
      return real (x.mul y)) = .ok n) :
      ∃ x y, a.toReal = .ok x ∧ b.toReal = .ok y ∧ n = real (x.mul y) := by
    obtain ⟨x, left, made⟩ := Attempt.exists_of_bind made
    obtain ⟨y, right, made⟩ := Attempt.exists_of_bind made
    exact ⟨x, y, left, right, (Except.ok.inj made).symm⟩
  cases a with
  | real x => exact .inr (mixed product)
  | int i =>
      cases b with
      | real y => exact .inr (mixed product)
      | int j => exact .inl ⟨i * j, (Except.ok.inj product).symm⟩

/-- A product of numbers above zero is a number. -/
theorem mul_ne_nan {a b n : Number} (left : a.IsPositive) (right : b.IsPositive)
    (product : a.mul b = .ok n) : n ≠ real .nan := by
  rcases mul_cases product with ⟨i, rfl⟩ | ⟨x, y, first, second, rfl⟩
  · simp
  · have some := Binary64.mul_ne_nan (zero_lt_of_toReal left first) (zero_lt_of_toReal right second)
    simpa using some

end Number

end ClusterPrep
