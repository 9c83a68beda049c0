import ClusterPrep.Number.Basic
import ClusterPrep.Proofs.Number.Order
import ClusterPrep.Proofs.Number.Range

set_option autoImplicit false

/-
  The signs of differences. A difference of reals has the sign of the exact one, and turned round it
  differs in the sign alone.
-/
namespace ClusterPrep

namespace Binary64

variable {neg : Bool} {a d m p : Nat} {x y : Binary64}

theorem units_neg (x : Binary64) : x.neg.units = -x.units := by
  cases x with
  | nan => rfl
  | inf s => rfl
  | finite s m p normal => cases s <;> simp [Binary64.neg, units]

theorem abs_pack (neg : Bool) (m p : Nat) : (pack neg m p).abs = (pack false m p).abs := by
  rw [pack, pack]
  split <;> rfl

theorem abs_round (neg : Bool) (a d : Nat) : (round neg a d).abs = (round false a d).abs := by
  rw [round, round]
  split
  · exact abs_pack _ _ _
  · exact abs_pack _ _ _

theorem abs_roundSigned_neg (s t : Bool) (u : Int) (d : Nat) :
    (roundSigned s (-u) d).abs = (roundSigned t u d).abs := by
  by_cases zero : u = 0
  · rw [zero, Int.neg_zero, roundSigned, roundSigned, if_pos rfl, if_pos rfl, abs_pack s,
      abs_pack t]
  · rw [roundSigned, roundSigned, if_neg zero, if_neg (Int.neg_ne_zero.mpr zero), Int.natAbs_neg,
      abs_round, abs_round (decide (u < 0))]

/-- The difference of finite numbers is their exact difference, rounded. -/
theorem sub_of_isFinite (left : x.isFinite = true) (right : y.isFinite = true) :
    ∃ s, x.sub y = roundSigned s (x.units - y.units) 1 := by
  cases x with
  | nan => cases left
  | inf s => cases left
  | finite s m p normal =>
      cases y with
      | nan => cases right
      | inf s => cases right
      | finite t m' p' normal' =>
          refine ⟨s && !t, ?_⟩
          rw [Int.sub_eq_add_neg, ← units_neg]
          rfl

/-- A difference and the one turned round have the same magnitude. -/
theorem abs_sub_comm (x y : Binary64) : (x.sub y).abs = (y.sub x).abs := by
  by_cases finite : x.isFinite = true ∧ y.isFinite = true
  · obtain ⟨s, forward⟩ := sub_of_isFinite finite.1 finite.2
    obtain ⟨t, back⟩ := sub_of_isFinite finite.2 finite.1
    rw [forward, back, ← Int.neg_sub]
    exact abs_roundSigned_neg s t _ 1
  · cases x with
    | nan => cases y <;> rfl
    | inf s =>
        cases y with
        | nan => rfl
        | inf t => cases s <;> cases t <;> rfl
        | finite t m p normal => rfl
    | finite s m p normal =>
        cases y with
        | nan => rfl
        | inf t => rfl
        | finite t m' p' normal' => exact absurd ⟨rfl, rfl⟩ finite

theorem sign_pack (nonzero : 0 < m) :
    (pack neg m p).lt zero = neg ∧ zero.lt (pack neg m p) = !neg := by
  have magnitude : 0 < m * Nat.pow 2 p := Nat.mul_pos nonzero (Nat.two_pow_pos p)
  rw [pack, zero_eq]
  split
  · cases neg with
    | false =>
        have above : 0 < ((m * Nat.pow 2 p : Nat) : Int) := by omega
        simpa [lt, units] using above
    | true =>
        have below : -((m * Nat.pow 2 p : Nat) : Int) < 0 := by omega
        have notAbove : 0 ≤ ((m * Nat.pow 2 p : Nat) : Int) := by omega
        simpa [lt, units] using And.intro below notAbove
  · exact ⟨rfl, rfl⟩

/-- What is a unit or more does not vanish when it is rounded. -/
theorem sign_round (positive : 0 < d) (large : d ≤ a) :
    (round neg a d).lt zero = neg ∧ zero.lt (round neg a d) = !neg := by
  have whole : 0 < a / d := Nat.div_pos large positive
  obtain ⟨k, power⟩ : ∃ k, (a / d).log2 - 52 = k := ⟨_, rfl⟩
  have fits : 2 ^ k ≤ a / d :=
    Nat.le_trans (Nat.pow_le_pow_right Nat.two_pos (by omega)) (Nat.log2_self_le (by omega))
  have nonzero : 0 < Number.roundEven a (d * 2 ^ k) := by
    refine Nat.lt_of_lt_of_le ?_ (Number.div_le_roundEven _ _)
    rw [← Nat.div_div_eq_div_mul]
    exact Nat.div_pos fits (Nat.two_pow_pos k)
  obtain ⟨x, rounded⟩ : ∃ x, x = round neg a d := ⟨_, rfl⟩
  rw [← rounded]
  rw [round, power] at rounded
  change x = if Number.roundEven a (d * 2 ^ k) = 2 ^ 53 then pack neg (2 ^ 52) (k + 1)
    else pack neg (Number.roundEven a (d * 2 ^ k)) k at rounded
  split at rounded
  · rw [rounded]
    exact sign_pack (Nat.two_pow_pos 52)
  · rw [rounded]
    exact sign_pack nonzero

theorem sign_roundSigned (s : Bool) (u : Int) :
    (roundSigned s u 1).lt zero = decide (u < 0) ∧
      zero.lt (roundSigned s u 1) = decide (0 < u) := by
  by_cases none : u = 0
  · have normal : NormalForm 0 0 := by decide
    rw [none, roundSigned, if_pos rfl, pack_of_normal normal, zero_eq]
    cases s <;> exact ⟨rfl, rfl⟩
  · rw [roundSigned, if_neg none]
    have side : decide (0 < u) = !decide (u < 0) := by
      rw [← decide_not]
      exact decide_eq_decide.mpr (by omega)
    rw [side]
    exact sign_round Nat.one_pos (by omega)

/-- A difference is below zero if the first number is the smaller one. -/
theorem lt_zero_sub_iff (left : x.isFinite = true) (right : y.isFinite = true) :
    (x.sub y).lt zero = true ↔ x.units < y.units := by
  obtain ⟨s, rounded⟩ := sub_of_isFinite left right
  rw [rounded, (sign_roundSigned s _).1, decide_eq_true_iff]
  omega

/-- A difference is above zero if the first number is the greater one. -/
theorem zero_lt_sub_iff (left : x.isFinite = true) (right : y.isFinite = true) :
    zero.lt (x.sub y) = true ↔ y.units < x.units := by
  obtain ⟨s, rounded⟩ := sub_of_isFinite left right
  rw [rounded, (sign_roundSigned s _).2, decide_eq_true_iff]
  omega

/-- Of a difference and the one turned round at most one is below zero, also where the numbers are
    not finite. -/
theorem sub_asymmetric (x y : Binary64) (below : (x.sub y).lt zero = true) :
    (y.sub x).lt zero = false := by
  by_cases finite : x.isFinite = true ∧ y.isFinite = true
  · rw [lt_zero_sub_iff finite.1 finite.2] at below
    by_contra other
    rw [Bool.not_eq_false, lt_zero_sub_iff finite.2 finite.1] at other
    omega
  · rw [zero_eq] at below ⊢
    cases x with
    | nan => cases y <;> rfl
    | inf s =>
        cases y with
        | nan => rfl
        | inf t => cases s <;> cases t <;> first | rfl | cases below
        | finite t m p normal => cases s <;> first | rfl | cases below
    | finite s m p normal =>
        cases y with
        | nan => rfl
        | inf t => cases t <;> first | rfl | cases below
        | finite t m' p' normal' => exact absurd ⟨rfl, rfl⟩ finite

theorem sub_ne_nan (left : x.isFinite = true) (right : y.isFinite = true) : x.sub y ≠ nan := by
  obtain ⟨s, rounded⟩ := sub_of_isFinite left right
  rw [rounded, roundSigned]
  split
  · exact pack_ne_nan _ _ _
  · exact round_ne_nan _ _ _

end Binary64

/-! ### Numbers of either kind and zero -/

namespace Number

theorem lt_zero_real (x : Binary64) : lt (.real x) (.int 0) = x.lt .zero := by
  rw [Binary64.zero_eq]
  cases x with
  | nan => rfl
  | inf neg => rfl
  | finite neg m p normal =>
      have none : ∀ h, (Binary64.finite false 0 0 h).units = 0 := fun _ => rfl
      simp only [lt, Binary64.lt, none, Int.zero_mul]

theorem le_zero_int (i : Int) : le (.int i) (.int 0) = true ↔ i ≤ 0 := by
  simp only [le, lt, eq, Bool.or_eq_true, decide_eq_true_eq]
  omega

theorem le_zero_real_iff {x : Binary64} (number : x ≠ .nan) :
    le (.real x) (.int 0) = true ↔ Binary64.zero.lt x = false := by
  rw [le, lt_zero_real, Binary64.zero_eq]
  cases x with
  | nan => exact absurd rfl number
  | inf neg => cases neg <;> decide
  | finite neg m p normal =>
      have none : ∀ h, (Binary64.finite false 0 0 h).units = 0 := fun _ => rfl
      simp only [eq, Binary64.lt, Binary64.isFinite, Int.zero_mul, Bool.true_and, none,
        Bool.or_eq_true, decide_eq_true_eq, decide_eq_false_iff_not]
      omega

end Number

end ClusterPrep
