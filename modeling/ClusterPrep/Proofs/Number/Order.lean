import ClusterPrep.Proofs.Number.ExactRounding

set_option autoImplicit false

/-
  The order of the reals: finite numbers compare as their values in units do.
-/
namespace ClusterPrep

namespace Binary64

theorem lt_iff_units {x y : Binary64} (left : x.isFinite = true) (right : y.isFinite = true) :
    x.lt y = true ↔ x.units < y.units := by
  cases x with
  | nan => cases left
  | inf neg => cases left
  | finite neg m p normal =>
      cases y with
      | nan => cases right
      | inf neg => cases right
      | finite neg' m' p' normal' => exact decide_eq_true_iff

theorem le_iff_units {x y : Binary64} (left : x.isFinite = true) (right : y.isFinite = true) :
    x.le y = true ↔ x.units ≤ y.units := by
  have same : x.eq y = true ↔ x.units = y.units := by
    cases x with
    | nan => cases left
    | inf neg => cases left
    | finite neg m p normal =>
        cases y with
        | nan => cases right
        | inf neg => cases right
        | finite neg' m' p' normal' => exact decide_eq_true_iff
  rw [le, Bool.or_eq_true, lt_iff_units left right, same]
  exact Int.le_iff_lt_or_eq.symm

theorem zero_eq : zero = finite false 0 0 (by decide) := pack_of_normal _

theorem isFinite_zero : zero.isFinite = true := by rw [zero_eq, isFinite]

theorem units_zero : zero.units = 0 := by
  rw [zero_eq]
  rfl

/-- One and ten are reals. -/
theorem ofInt_one_ten :
    ((ofInt 1).isFinite = true ∧ (ofInt 1).units = one) ∧
      (ofInt 10).isFinite = true ∧ (ofInt 10).units = 10 * one := by
  decide +kernel

/-- The numbers from zero on are the finite ones that are not below it and the infinite one. -/
theorem zero_le_iff {x : Binary64} :
    zero.le x = true ↔ (x.isFinite = true ∧ 0 ≤ x.units) ∨ x = inf false := by
  by_cases finite : x.isFinite = true
  · have bounded : x ≠ inf false := by
      rintro rfl
      cases finite
    rw [le_iff_units isFinite_zero finite, units_zero]
    simp [finite, bounded]
  · cases x with
    | nan => rw [zero_eq]; decide
    | inf neg => rw [zero_eq]; cases neg <;> decide
    | finite neg m p normal => exact absurd rfl finite

/-- The numbers from zero to a finite one. -/
theorem zero_le_and_le_iff {x y : Binary64} (limited : y.isFinite = true) :
    (zero.le x && x.le y) = true ↔ x.isFinite = true ∧ 0 ≤ x.units ∧ x.units ≤ y.units := by
  rw [Bool.and_eq_true, zero_le_iff]
  constructor
  · rintro ⟨⟨finite, least⟩ | rfl, most⟩
    · exact ⟨finite, least, (le_iff_units finite limited).mp most⟩
    · cases y with
      | nan => cases limited
      | inf neg => cases limited
      | finite neg m p normal => cases most
  · rintro ⟨finite, least, most⟩
    exact ⟨.inl ⟨finite, least⟩, (le_iff_units finite limited).mpr most⟩

/-- The numbers above zero up to a finite one. -/
theorem zero_lt_and_le_iff {x y : Binary64} (limited : y.isFinite = true) :
    (zero.lt x && x.le y) = true ↔ x.isFinite = true ∧ 0 < x.units ∧ x.units ≤ y.units := by
  constructor
  · intro between
    obtain ⟨positive, most⟩ := Bool.and_eq_true_iff.mp between
    have least : zero.le x = true := by rw [le, positive, Bool.true_or]
    obtain ⟨finite, -, most⟩ := (zero_le_and_le_iff limited).mp (by rw [least, most]; rfl)
    rw [lt_iff_units isFinite_zero finite, units_zero] at positive
    exact ⟨finite, positive, most⟩
  · rintro ⟨finite, positive, most⟩
    rw [Bool.and_eq_true, lt_iff_units isFinite_zero finite, le_iff_units finite limited,
      units_zero]
    exact ⟨positive, most⟩

end Binary64

end ClusterPrep
