import ClusterPrep.Grid.Nearby
import Mathlib.Order.Bounds.Defs
import Mathlib.Algebra.Ring.Nat

set_option autoImplicit false

/-
  The squarest grid. Its rows are the greatest divisor of the count that is not above the root, and
  that is to say that in no other grid for the count rows and columns are nearer to each other.
-/
namespace ClusterPrep.Grid

/-- A grid for `n` processes that is no longer in its rows than in its columns. -/
structure Layout (n p q : Nat) : Prop where
  positive : 1 ≤ p
  le : p ≤ q
  product : p * q = n

/-- The numbers of rows that a grid for `n` processes can have. -/
def rowCounts (n : Nat) : Set Nat := {d | d ∣ n ∧ d * d ≤ n}

/-! ### The search for a divisor -/

/-- The search stops at one at the latest, and passes over no divisor. -/
theorem isGreatest_divisorUpTo (n k : Nat) :
    IsGreatest {d | d ∣ n ∧ d ≤ k + 1} (divisorUpTo n k) := by
  induction k with
  | zero => exact ⟨⟨Nat.one_dvd n, Nat.le_refl 1⟩, fun d small => small.2⟩
  | succ k ih =>
      rw [divisorUpTo]
      by_cases divides : n % (k + 2) = 0
      · rw [if_pos divides]
        exact ⟨⟨Nat.dvd_of_mod_eq_zero divides, Nat.le_refl _⟩, fun d small => small.2⟩
      · rw [if_neg divides]
        obtain ⟨⟨found, within⟩, greatest⟩ := ih
        refine ⟨⟨found, by omega⟩, fun d ⟨divisor, small⟩ => greatest ⟨divisor, ?_⟩⟩
        have other : d ≠ k + 2 := by
          rintro rfl
          exact divides (Nat.mod_eq_zero_of_dvd divisor)
        omega

/-- The root is the greatest number whose square is within `n`. -/
theorem le_sqrt_iff {d n : Nat} : d ≤ Number.sqrt n ↔ d * d ≤ n := by
  obtain ⟨lower, upper⟩ := Number.sqrt_bounds n
  constructor
  · intro small
    exact Nat.le_trans (Nat.mul_le_mul small small) lower
  · intro within
    by_contra above
    have next : Number.sqrt n + 1 ≤ d := by omega
    have wide := Nat.mul_le_mul next next
    omega

/-- The search that begins at the root ends at the greatest possible number of rows. -/
theorem isGreatest_rowCounts {n : Nat} (positive : 1 ≤ n) :
    IsGreatest (rowCounts n) (divisorUpTo n (Number.sqrt n - 1)) := by
  have root : 1 ≤ Number.sqrt n := le_sqrt_iff.mpr (by omega)
  have same : {d | d ∣ n ∧ d ≤ Number.sqrt n - 1 + 1} = rowCounts n := by
    rw [Nat.sub_add_cancel root]
    simp only [rowCounts, le_sqrt_iff]
  rw [← same]
  exact isGreatest_divisorUpTo n _

/-! ### Rows and columns -/

theorem Layout.mem_rowCounts {n p q : Nat} (layout : Layout n p q) : p ∈ rowCounts n := by
  obtain ⟨-, le, rfl⟩ := layout
  exact ⟨Nat.dvd_mul_right p q, Nat.mul_le_mul_left p le⟩

/-- Each possible number of rows makes a grid, with the quotient as its columns. -/
theorem layout_of_mem_rowCounts {n p : Nat} (positive : 1 ≤ n) (member : p ∈ rowCounts n) :
    Layout n p (n / p) := by
  obtain ⟨⟨q, rfl⟩, within⟩ := member
  have rows : 0 < p := Nat.pos_of_ne_zero (by rintro rfl; omega)
  rw [Nat.mul_div_cancel_left q rows]
  exact ⟨rows, Nat.le_of_mul_le_mul_left within rows, rfl⟩

/-- Of two grids for a count, the one with more rows has fewer columns. -/
theorem Layout.columns_le {n p q a b : Nat} (layout : Layout n p q) (other : Layout n a b)
    (more : a ≤ p) : q ≤ b := by
  by_contra fewer
  have longer : p * b < p * q := Nat.mul_lt_mul_of_pos_left (by omega) layout.positive
  have shorter : a * b ≤ p * b := Nat.mul_le_mul_right b more
  have products := layout.product.trans other.product.symm
  omega

/-- The greatest number of rows and the least difference between rows and columns are the same
    thing. -/
theorem Layout.isGreatest_iff {n p q : Nat} (layout : Layout n p q) :
    IsGreatest (rowCounts n) p ↔ ∀ a b, Layout n a b → q - p ≤ b - a := by
  have lengths := layout.le
  constructor
  · intro greatest a b other
    have fewer : a ≤ p := greatest.2 other.mem_rowCounts
    have longer := layout.columns_le other fewer
    omega
  · intro nearest
    refine ⟨layout.mem_rowCounts, fun d member => ?_⟩
    have positive : 1 ≤ n := by
      rw [← layout.product]
      exact Nat.mul_pos layout.positive (Nat.le_trans layout.positive layout.le)
    have other := layout_of_mem_rowCounts positive member
    have difference := nearest d (n / d) other
    by_contra more
    have shorter := other.columns_le layout (by omega)
    have rows := other.le
    omega

/-! ### The grid that is suggested -/

theorem squarest_of_positive {n : Nat} (positive : 1 ≤ n) :
    squarest n = .ok ((shapeFor n).p, (shapeFor n).q) := by
  have large : ¬ (n : Int) < 1 := by omega
  rw [squarest, if_neg large]
  rfl

theorem isGreatest_shapeFor {n : Nat} (positive : 1 ≤ n) :
    IsGreatest (rowCounts n) (shapeFor n).p := isGreatest_rowCounts positive

theorem layout_shapeFor {n : Nat} (positive : 1 ≤ n) :
    Layout n (shapeFor n).p (shapeFor n).q :=
  layout_of_mem_rowCounts positive (isGreatest_rowCounts positive).1

/-- The failure is a bad value also where the count is too long to be written into its message. -/
theorem squarest_of_not_positive {n : Int} (low : n < 1) :
    ∃ e, squarest n = .error e ∧ e.kind = .badValue := by
  rw [squarest, if_pos low]
  by_cases long : Numeral.maxDigits < (Numeral.ofNat n.natAbs).length
  · rw [Numeral.writeInt, if_pos long]
    exact ⟨.longInteger, rfl, rfl⟩
  · rw [Numeral.writeInt, if_neg long]
    exact ⟨.gridOfNonPositive (Numeral.ofInt n), rfl, rfl⟩

/-- The suggested grid is the squarest for every count from one on: its rows are the greatest
    possible, its rows and columns as near to each other as those of any grid for the count, and the
    one means the other. Below one there is no grid. -/
theorem squarest_optimal :
    (∀ n : Nat, 1 ≤ n → ∃ p q, squarest n = .ok (p, q) ∧ p * q = n ∧ p ≤ q ∧
      IsGreatest {d | d ∣ n ∧ d * d ≤ n} p ∧
      ∀ a b, 1 ≤ a → a ≤ b → a * b = n → q - p ≤ b - a) ∧
    (∀ n p q : Nat, 1 ≤ p → p ≤ q → p * q = n →
      (IsGreatest {d | d ∣ n ∧ d * d ≤ n} p ↔
        ∀ a b, 1 ≤ a → a ≤ b → a * b = n → q - p ≤ b - a)) ∧
    ∀ n : Int, n < 1 → ∃ e, squarest n = .error e ∧ e.kind = .badValue := by
  have equivalent : ∀ n p q : Nat, 1 ≤ p → p ≤ q → p * q = n →
      (IsGreatest (rowCounts n) p ↔ ∀ a b, 1 ≤ a → a ≤ b → a * b = n → q - p ≤ b - a) := by
    intro n p q rows le product
    rw [Layout.isGreatest_iff ⟨rows, le, product⟩]
    exact ⟨fun nearest a b low high same => nearest a b ⟨low, high, same⟩,
      fun nearest a b other => nearest a b other.positive other.le other.product⟩
  refine ⟨fun n positive => ?_, equivalent, fun n low => squarest_of_not_positive low⟩
  have layout := layout_shapeFor positive
  have greatest := isGreatest_shapeFor positive
  exact ⟨_, _, squarest_of_positive positive, layout.product, layout.le, greatest,
    (equivalent n _ _ layout.positive layout.le layout.product).mp greatest⟩

theorem squarest_optimal_ninetySix :
    squarest 96 = .ok (8, 12) ∧ IsGreatest {d | d ∣ 96 ∧ d * d ≤ 96} 8 ∧
      ∀ a b, 1 ≤ a → a ≤ b → a * b = 96 → 12 - 8 ≤ b - a := by
  obtain ⟨p, q, found, -, -, greatest, nearest⟩ := squarest_optimal.1 96 (by decide)
  have computed : squarest 96 = .ok (8, 12) := by decide
  have same : (p, q) = (8, 12) := Except.ok.inj (found.symm.trans computed)
  cases same
  exact ⟨computed, greatest, nearest⟩

end ClusterPrep.Grid
