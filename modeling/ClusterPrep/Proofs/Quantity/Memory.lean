import ClusterPrep.Proofs.Attempt
import ClusterPrep.Proofs.Number.WholeNumerals
import ClusterPrep.Proofs.Number.WholeReals
import ClusterPrep.Quantity.Memory

set_option autoImplicit false

/-
  What can be wrong with an amount of memory. A text that is none is a bad value. But kilobytes are
  divided as reals, and of the numbers beyond the reals there are texts as well.
-/
namespace ClusterPrep.Memory

open Numeral

/-- An amount is not in kilobytes or it is within the reals. -/
def WithinReals (s : Text) : Prop :=
  ∀ ds i, parts? s = some (ds, .kilo) → readInt ds = .ok i →
    i.natAbs < 2 ^ 1024 - 2 ^ 970

/-! ### Kilobytes -/

/-- The 1024th part of one is a power of two, as one is itself. -/
theorem exists_units_share : ∃ share : Nat,
    (Binary64.ofFraction false 1 1024).units = share ∧ Binary64.one = 2 ^ 10 * share :=
  ⟨(Binary64.ofFraction false 1 1024).units.toNat, by decide +kernel, by decide +kernel⟩

theorem megabytes_kilo (i : Int) : Scale.kilo.megabytes i =
    Binary64.ofInt? i >>= fun x => (x.mul (.ofFraction false 1 1024)).truncate := rfl

/-- **Kilobytes are rounded to a real before they are divided.** -/
theorem megabytes_kilo_of_within {v : Nat} (within : v < 2 ^ 1024 - 2 ^ 970) :
    Scale.kilo.megabytes v = .ok ((Binary64.nearest v / 1024 : Nat) : Int) := by
  have inside : (v : Int).natAbs < 2 ^ 1024 - 2 ^ 970 := by
    rw [Int.natAbs_natCast]
    exact within
  obtain ⟨share, units, unit⟩ := exists_units_share
  rw [megabytes_kilo, Binary64.ofInt?_of_within inside, Attempt.ok_bind]
  exact Binary64.truncate_mul (Binary64.isFinite_ofInt_iff.mpr inside) (Binary64.units_ofInt within)
    (by decide +kernel) units unit (by decide)

theorem megabytes_kilo_of_beyond {i : Int} (beyond : 2 ^ 1024 - 2 ^ 970 ≤ i.natAbs) :
    Scale.kilo.megabytes i = .error .realOfLargeInteger := by
  rw [megabytes_kilo, Binary64.ofInt?_of_beyond beyond]
  rfl

/-! ### Amounts -/

theorem read_of_parts {s ds : Text} {u : Scale} (parts : parts? s = some (ds, u)) :
    read s = (do
      let n ← u.megabytes (← readInt ds)
      return max 1 n) := by
  rw [read, parts]

/-- The digits of an amount stand for no number below zero. -/
theorem zero_le_of_parts {s ds : Text} {u : Scale} {i : Int} (parts : parts? s = some (ds, u))
    (read : readInt ds = .ok i) : 0 ≤ i := by
  refine zero_le_of_readInt read fun dash => ?_
  rw [parts?] at parts
  dsimp only at parts
  split at parts
  · cases parts
  · cases parts
    exact absurd (List.mem_takeWhile_imp dash) (by decide)

/-- **Where an amount of memory is wrong at most as a bad value.** -/
theorem kind_of_read_iff {s : Text} :
    (∀ e, read s = .error e → e.kind = .badValue) ↔ WithinReals s := by
  constructor
  · intro bad ds i parts digits
    by_contra beyond
    have failed : read s = .error .realOfLargeInteger := by
      rw [read_of_parts parts, digits, Attempt.ok_bind,
        megabytes_kilo_of_beyond (Nat.not_lt.mp beyond)]
      rfl
    cases bad _ failed
  · intro within e failed
    cases parts : parts? s with
    | none =>
        rw [read, parts] at failed
        cases failed
        rfl
    | some part =>
        obtain ⟨ds, u⟩ := part
        rw [read_of_parts parts] at failed
        rcases Attempt.error_of_bind failed with refused | ⟨i, digits, failed⟩
        · exact kind_of_readInt refused
        have done : ∃ n, u.megabytes i = .ok n := by
          cases u with
          | kilo =>
              have within := within ds i parts digits
              obtain ⟨v, rfl⟩ := Int.eq_ofNat_of_zero_le (zero_le_of_parts parts digits)
              rw [Int.natAbs_natCast] at within
              exact ⟨_, megabytes_kilo_of_within within⟩
          | none | mega | giga | tera => exact ⟨_, rfl⟩
        obtain ⟨n, done⟩ := done
        rw [done] at failed
        cases failed

end ClusterPrep.Memory
