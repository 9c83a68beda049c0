import ClusterPrep.Hpl.Size
import ClusterPrep.Proofs.Number.Difference
import ClusterPrep.Proofs.Number.Product
import ClusterPrep.Proofs.Number.Scaling

set_option autoImplicit false

/-
  The problem size for a memory. There is one for every memory from zero on that can be counted in
  bytes within the reals; it is a multiple of the block size and within the reals itself. A memory
  below zero is refused, and so is one that is no number. A memory that is too large fails in
  another way.
-/
namespace ClusterPrep.Hpl

open Binary64 (IsAmount)

/-- The gigabytes from which on the bytes are beyond the reals. -/
def memoryLimit : Binary64 := .ofInt (2 ^ 994)

/-- The numbers that sizes are computed with are exact. -/
theorem exact_factors :
    ((Binary64.ofInt gigabyte).isFinite = true ∧
      (Binary64.ofInt gigabyte).units = ((2 ^ 30 * Binary64.one : Nat) : Int)) ∧
    ((Binary64.ofInt 8).isFinite = true ∧
      (Binary64.ofInt 8).units = ((2 ^ 3 * Binary64.one : Nat) : Int)) ∧
    (memoryLimit.isFinite = true ∧
      memoryLimit.units = ((2 ^ 994 * Binary64.one : Nat) : Int)) := by
  decide +kernel

/-- A share of the whole. -/
structure IsShare (r : Binary64) : Prop where
  finite : r.isFinite = true
  positive : 0 < r.units
  most : r.units ≤ Binary64.one

/-- The order of the largest matrix for a memory of which a share is used. -/
def order (m r : Binary64) : Attempt Int :=
  (((m.mul (.ofInt gigabyte)).mul r).div (.ofInt 8)).sqrt.floor

section

variable {m r : Binary64} {k : Int}

theorem IsShare.test (share : IsShare r) :
    ((Number.int 0).lt (.real r) && (Number.real r).le (.int 1)) = true := by
  have positive := share.positive
  have most := share.most
  cases r with
  | nan => cases share.finite
  | inf neg => cases share.finite
  | finite neg m p normal =>
      rw [Bool.and_eq_true]
      constructor
      · change decide ((0 : Int) * Binary64.one < _) = true
        rw [Int.zero_mul]
        exact decide_eq_true positive
      · change (decide (_ < (1 : Int) * Binary64.one) ||
          (true && decide (_ = (1 : Int) * Binary64.one))) = true
        rw [Int.one_mul, Bool.true_and, Bool.or_eq_true, decide_eq_true_iff, decide_eq_true_iff]
        exact Int.le_iff_lt_or_eq.mp most

theorem orderFor_real (b : Binary64) :
    Arithmetic.rounded.orderFor (.real b) = (b.div (.ofInt 8)).sqrt.floor := by
  obtain ⟨-, ⟨finite, -⟩, -⟩ := exact_factors
  have eight : Binary64.ofInt? 8 = .ok (.ofInt 8) := Binary64.unlessInfinite_of_isFinite finite _
  have nonzero := Binary64.isZero_of_zero_lt (Binary64.zero_lt_ofInt (i := 8) (by decide))
  simp only [Arithmetic.orderFor, Arithmetic.rounded, Number.div, Number.toReal, eight, nonzero,
    bind, Except.bind]
  rfl

theorem mul_gigabyte (m : Binary64) :
    (Number.real m).mul (.int gigabyte) = .ok (.real (m.mul (.ofInt gigabyte))) := by
  obtain ⟨⟨finite, -⟩, -, -⟩ := exact_factors
  have bytes : Binary64.ofInt? gigabyte = .ok (.ofInt gigabyte) :=
    Binary64.unlessInfinite_of_isFinite finite _
  simp only [Number.mul, Number.toReal, bytes, bind, Except.bind]
  rfl

theorem suggestSize_real : suggestSize (.real m) (.real r) (.int k) = (do
    if (Number.real m).lt (.int 0) then throw (.negativeMemory (← (Value.real m).shown))
    if !((Number.int 0).lt (.real r) && (Number.real r).le (.int 1)) then
      throw (.badMemoryRatio (← (Value.real r).shown))
    let n ← Arithmetic.rounded.orderFor (← (← (Number.real m).mul (.int gigabyte)).mul (.real r))
    (← (Number.int n).floorDiv (.int k)).mul (.int k)) := rfl

theorem suggestSize_eq (upward : m.lt .zero = false) (share : IsShare r) (block : 1 ≤ k) :
    suggestSize (.real m) (.real r) (.int k) = (do
      let n ← order m r
      return .int (n.fdiv k * k)) := by
  have sign : (Number.real m).lt (.int 0) = false := (Number.lt_zero_real m).trans upward
  have part : (Number.real (m.mul (.ofInt gigabyte))).mul (.real r) =
    .ok (.real ((m.mul (.ofInt gigabyte)).mul r)) := rfl
  have multiple (n : Int) : (Number.int n).floorDiv (.int k) = .ok (.int (n.fdiv k)) :=
    if_neg (by omega)
  simp only [suggestSize_real, sign, share.test, mul_gigabyte, part, orderFor_real, multiple, order,
    bind, Except.bind, pure, Except.pure, Bool.not_true, Bool.false_eq_true, if_false]
  rfl

theorem suggestSize_of_negative (negative : m.lt .zero = true) :
    ∃ e, suggestSize (.real m) (.real r) (.int k) = .error e ∧ e.kind = .badValue := by
  have sign : (Number.real m).lt (.int 0) = true := (Number.lt_zero_real m).trans negative
  refine ⟨.negativeMemory m.text, ?_, rfl⟩
  rw [suggestSize_real, sign]
  rfl

/-! ### The order of the matrix -/

theorem order_nan (r : Binary64) : order .nan r = .error .integerOfNan := by
  rfl

/-- No operation leads back from beyond the reals. -/
theorem order_of_infinite (beyond : m.mul (.ofInt gigabyte) = .inf false) (share : IsShare r) :
    order m r = .error .integerOfInfinity := by
  obtain ⟨-, ⟨finite, units⟩, -⟩ := exact_factors
  have positive := Binary64.one_pos
  rw [order, beyond, Binary64.inf_mul share.finite share.positive,
    Binary64.inf_div finite (by omega)]
  rfl

theorem order_of_isAmount (amount : (m.mul (.ofInt gigabyte)).IsAmount) (share : IsShare r) :
    ∃ n : Int, order m r = .ok n ∧ 0 ≤ n ∧ (Binary64.ofInt n).isFinite = true := by
  obtain ⟨-, ⟨finite, units⟩, -⟩ := exact_factors
  have part := amount.mul_share ⟨share.finite, Int.le_of_lt share.positive⟩ share.most
  exact (part.div finite (by omega)).sqrt.floor

theorem isAmount_gigabyte : (Binary64.ofInt gigabyte).IsAmount := by
  obtain ⟨⟨finite, units⟩, -⟩ := exact_factors
  exact ⟨finite, by omega⟩

/-- The memories whose bytes are within the reals. -/
theorem isAmount_mul_gigabyte_iff (amount : m.IsAmount) :
    (m.mul (.ofInt gigabyte)).IsAmount ↔ m.lt memoryLimit = true := by
  obtain ⟨⟨finite, units⟩, -, limited, limit⟩ := exact_factors
  have scaled := Binary64.isFinite_mul_pow_iff (k := 30) amount finite (by decide) units
  have exponent : 1024 - 30 = 994 := rfl
  rw [exponent] at scaled
  rw [Binary64.lt_iff_units amount.finite limited, limit, ← scaled]
  constructor
  · exact fun within => within.finite
  · intro within
    refine (amount.mul_or isAmount_gigabyte).resolve_right fun beyond => ?_
    rw [beyond] at within
    cases within

/-! ### The size -/

/-- A size is at most the order that it is rounded down from. -/
theorem exists_multiple {n : Int} (least : 0 ≤ n) (finite : (Binary64.ofInt n).isFinite = true)
    (block : 1 ≤ k) :
    ∃ j : Nat, n.fdiv k * k = j * k ∧ (Binary64.ofInt (j * k)).isFinite = true := by
  rw [Int.fdiv_eq_ediv_of_nonneg n (by omega)]
  have count : 0 ≤ n / k := Int.ediv_nonneg least (by omega)
  have most : n / k * k ≤ n := Int.ediv_mul_le n (by omega)
  have positive : 0 ≤ n / k * k := Int.mul_nonneg count (by omega)
  refine ⟨(n / k).toNat, by rw [Int.toNat_of_nonneg count], ?_⟩
  rw [Int.toNat_of_nonneg count]
  rw [Binary64.isFinite_ofInt_iff] at finite ⊢
  omega

/-- There is a size for every memory from zero on and below the limit. -/
theorem suggestSize_of_within (least : Binary64.zero.le m = true) (below : m.lt memoryLimit = true)
    (share : IsShare r) (block : 1 ≤ k) :
    ∃ j : Nat, suggestSize (.real m) (.real r) (.int k) = .ok (.int (j * k)) ∧
      (Binary64.ofInt (j * k)).isFinite = true := by
  have amount : m.IsAmount := by
    refine (Binary64.zero_le_iff_isAmount.mp least).resolve_right ?_
    rintro rfl
    rw [Binary64.inf_lt exact_factors.2.2.1] at below
    cases below
  obtain ⟨n, made, positive, finite⟩ :=
    order_of_isAmount ((isAmount_mul_gigabyte_iff amount).mpr below) share
  obtain ⟨j, same, finite⟩ := exists_multiple positive finite block
  refine ⟨j, ?_, finite⟩
  rw [suggestSize_eq (Binary64.lt_zero_of_zero_le least) share block, made, ← same]
  rfl

/-- A memory from the limit on is too large. -/
theorem suggestSize_of_beyond (least : Binary64.zero.le m = true)
    (beyond : m.lt memoryLimit = false) (share : IsShare r) (block : 1 ≤ k) :
    suggestSize (.real m) (.real r) (.int k) = .error .integerOfInfinity := by
  have infinite : m.mul (.ofInt gigabyte) = .inf false := by
    rcases Binary64.zero_le_iff_isAmount.mp least with amount | rfl
    · refine (amount.mul_or isAmount_gigabyte).resolve_left fun within => ?_
      rw [(isAmount_mul_gigabyte_iff amount).mp within] at beyond
      cases beyond
    · obtain ⟨⟨finite, units⟩, -⟩ := exact_factors
      have positive := Binary64.one_pos
      exact Binary64.inf_mul finite (by omega)
  rw [suggestSize_eq (Binary64.lt_zero_of_zero_le least) share block,
    order_of_infinite infinite share]
  rfl

/-- A memory below zero, or that is no number, is a bad value. -/
theorem suggestSize_of_bad (bad : Binary64.zero.le m = false) (share : IsShare r) (block : 1 ≤ k) :
    ∃ e, suggestSize (.real m) (.real r) (.int k) = .error e ∧ e.kind = .badValue := by
  by_cases none : m = .nan
  · rw [none]
    refine ⟨.integerOfNan, ?_, rfl⟩
    rw [suggestSize_eq rfl share block, order_nan]
    rfl
  · exact suggestSize_of_negative (Binary64.lt_zero_of_not_zero_le none bad)

end

end ClusterPrep.Hpl
