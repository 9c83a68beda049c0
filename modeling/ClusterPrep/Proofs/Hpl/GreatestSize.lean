import ClusterPrep.Hpl.Size
import ClusterPrep.Proofs.Attempt
import ClusterPrep.Proofs.Number.WholeNumerals
import Mathlib.Algebra.Order.Floor.Ring
import Mathlib.Analysis.Real.Sqrt

set_option autoImplicit false

/-
  The problem size as it would be if nothing were rounded: the steps are carried out on the real
  numbers themselves. The size is then the greatest multiple of the block size whose matrix fits
  into the share of the memory, so that more memory or a greater share never gives a smaller size.
  What is no amount of memory and what is no share is refused in every arithmetic.
-/
namespace ClusterPrep.Hpl

/-! ### In every arithmetic -/

/-- The operand is a number, and wrong at most as a bad value where its text cannot be written. -/
structure Operand.IsNumber {num : Type} (o : Operand num) (x : num) : Prop where
  number : o.number? = some x
  shown : ∀ e, o.shown = .error e → e.kind = .badValue

namespace Arithmetic

section

variable {num real : Type} (arithmetic : Arithmetic num real) {memory ratio multiple : Operand num}
  {m r k : num}

/-- Whether a number is more than zero and at most one. -/
def isShare (r : num) : Bool :=
  arithmetic.lt (arithmetic.whole 0) r && arithmetic.le r (arithmetic.whole 1)

/-- A memory below zero is a bad value, also if it cannot be written. -/
theorem sizeFor_of_negative (hm : memory.IsNumber m)
    (negative : arithmetic.lt m (arithmetic.whole 0) = true) :
    ∃ e, arithmetic.sizeFor memory ratio multiple = .error e ∧ e.kind = .badValue := by
  rw [sizeFor, Operand.compared_of_number hm.number, Attempt.ok_bind, negative]
  cases shown : memory.shown with
  | ok t => exact ⟨.negativeMemory t, rfl, rfl⟩
  | error e => exact ⟨e, rfl, hm.shown e shown⟩

/-- So is what is no share, over a memory that is good. -/
theorem sizeFor_of_no_share (hm : memory.IsNumber m) (hr : ratio.IsNumber r)
    (least : arithmetic.lt m (arithmetic.whole 0) = false)
    (outside : arithmetic.isShare r = false) :
    ∃ e, arithmetic.sizeFor memory ratio multiple = .error e ∧ e.kind = .badValue := by
  rw [isShare] at outside
  rw [sizeFor, Operand.compared_of_number hm.number, Operand.compared_of_number hr.number,
    Attempt.ok_bind, Attempt.ok_bind, least, outside]
  cases shown : ratio.shown with
  | ok t => exact ⟨.badMemoryRatio t, rfl, rfl⟩
  | error e => exact ⟨e, rfl, hr.shown e shown⟩

/-- A memory below zero or something that is no share is a bad value. -/
theorem sizeFor_of_bad (hm : memory.IsNumber m) (hr : ratio.IsNumber r)
    (bad : arithmetic.lt m (arithmetic.whole 0) = true ∨ arithmetic.isShare r = false) :
    ∃ e, arithmetic.sizeFor memory ratio multiple = .error e ∧ e.kind = .badValue := by
  cases least : arithmetic.lt m (arithmetic.whole 0) with
  | true => exact arithmetic.sizeFor_of_negative hm least
  | false =>
      rw [least] at bad
      exact arithmetic.sizeFor_of_no_share hm hr least (bad.resolve_left Bool.false_ne_true)

/-- Over a good memory and a share the size is computed. -/
theorem sizeFor_of_good (hm : memory.IsNumber m) (hr : ratio.IsNumber r)
    (hk : multiple.IsNumber k) (least : arithmetic.lt m (arithmetic.whole 0) = false)
    (share : arithmetic.isShare r = true) :
    arithmetic.sizeFor memory ratio multiple = (do
      let bytes ← arithmetic.mul (← arithmetic.mul m (arithmetic.whole gigabyte)) r
      let n ← arithmetic.orderFor bytes
      arithmetic.mul (← arithmetic.floorDiv (arithmetic.whole n) k) k) := by
  rw [isShare] at share
  rw [sizeFor, Operand.compared_of_number hm.number, Operand.compared_of_number hr.number,
    Attempt.ok_bind, Attempt.ok_bind, least, share, hk.number]
  rfl

end

end Arithmetic

/-- The numbers among the values are numbers to compute with. -/
theorem Operand.isNumber_ofValue {v : Value} {n : Number} (number : v.number? = some n) :
    (Operand.ofValue v).IsNumber n := by
  refine ⟨number, fun e refused => ?_⟩
  cases v with
  | bool b => cases refused
  | int i => exact Numeral.kind_of_writeInt refused
  | real x => cases refused
  | null | text | moment | list | table => cases number

/-! ### Without rounding -/

open Classical in
/-- The arithmetic of the reals, in which every operation is exact. -/
noncomputable def Arithmetic.exact : Arithmetic ℝ ℝ where
  whole i := i
  lt x y := decide (x < y)
  le x y := decide (x ≤ y)
  mul x y := .ok (x * y)
  div x y := if y = 0 then .error .realDivisionByZero else .ok (x / y)
  sqrt := Real.sqrt
  floor x := .ok ⌊x⌋
  floorDiv x y := if y = 0 then .error .realFloorDivisionByZero else .ok ⌊x / y⌋

/-- A real number to compute with, `shown` being how reals are written. -/
def Operand.ofReal (shown : ℝ → Attempt Text) (x : ℝ) : Operand ℝ := ⟨some x, "float", shown x⟩

/-- The problem size, computed without rounding. -/
noncomputable def exactSize (shown : ℝ → Attempt Text) (memory ratio : ℝ) (multiple : ℤ) :
    Attempt ℝ :=
  Arithmetic.exact.sizeFor (.ofReal shown memory) (.ofReal shown ratio) (.ofReal shown multiple)

/-- The multiples of the block size whose matrices of eight-byte reals fit into a share of the
    gigabytes of a memory. -/
def fitting (memory ratio : ℝ) (multiple : ℤ) : Set ℕ :=
  {n | multiple ∣ n ∧ 8 * (n : ℝ) * n ≤ memory * 1024 ^ 3 * ratio}

section

variable {memory ratio : ℝ} {multiple : ℤ}

/-- More memory and a greater share leave room for all that fitted before. -/
theorem fitting_mono {memory' ratio' : ℝ} (least : 0 ≤ memory) (more : memory ≤ memory')
    (positive : 0 < ratio) (greater : ratio ≤ ratio') :
    fitting memory ratio multiple ⊆ fitting memory' ratio' multiple := by
  rintro n ⟨whole, fits⟩
  have room : memory * 1024 ^ 3 * ratio ≤ memory' * 1024 ^ 3 * ratio' := by
    have least' : 0 ≤ memory' := least.trans more
    gcongr
  exact ⟨whole, fits.trans room⟩

/-- A whole number is at most the whole part of a root if its square is at most the number. -/
theorem le_floor_sqrt_iff {x : ℝ} (least : 0 ≤ x) {n : ℕ} : n ≤ ⌊√x⌋₊ ↔ (n : ℝ) * n ≤ x := by
  rw [Nat.le_floor_iff (Real.sqrt_nonneg x), Real.le_sqrt (Nat.cast_nonneg n) least, sq]

/-- The greatest matrix for so many bytes, of an order that is a multiple of a block size. -/
theorem isGreatest_order {bytes : ℝ} (least : 0 ≤ bytes) {block : ℕ} (positive : 0 < block) :
    IsGreatest {n : ℕ | (block : ℤ) ∣ n ∧ 8 * (n : ℝ) * n ≤ bytes}
      (⌊√(bytes / 8)⌋₊ / block * block) := by
  have cells : 0 ≤ bytes / 8 := by positivity
  have fits (n : ℕ) : 8 * (n : ℝ) * n ≤ bytes ↔ n ≤ ⌊√(bytes / 8)⌋₊ := by
    rw [le_floor_sqrt_iff cells, le_div_iff₀ (by norm_num), mul_comm _ (8 : ℝ), mul_assoc]
  simp only [fits, Int.natCast_dvd_natCast]
  constructor
  · exact ⟨Nat.dvd_mul_left block _, Nat.div_mul_le_self _ block⟩
  · rintro n ⟨⟨count, rfl⟩, most⟩
    have counted : count ≤ ⌊√(bytes / 8)⌋₊ / block := by
      rwa [Nat.le_div_iff_mul_le positive, Nat.mul_comm]
    rw [Nat.mul_comm block]
    exact Nat.mul_le_mul_right block counted

variable {shown : ℝ → Attempt Text} (legible : ∀ x e, shown x = .error e → e.kind = .badValue)

theorem isShare_exact_iff : Arithmetic.exact.isShare ratio = true ↔ 0 < ratio ∧ ratio ≤ 1 := by
  simp [Arithmetic.isShare, Arithmetic.exact]

theorem lt_zero_exact_iff :
    Arithmetic.exact.lt memory (Arithmetic.exact.whole 0) = true ↔ memory < 0 := by
  simp [Arithmetic.exact]

include legible

theorem Operand.isNumber_ofReal (x : ℝ) : (Operand.ofReal shown x).IsNumber x :=
  ⟨rfl, legible x⟩

theorem exactSize_of_bad (bad : memory < 0 ∨ ¬ (0 < ratio ∧ ratio ≤ 1)) :
    ∃ e, exactSize shown memory ratio multiple = .error e ∧ e.kind = .badValue := by
  refine Arithmetic.exact.sizeFor_of_bad (Operand.isNumber_ofReal legible memory)
    (Operand.isNumber_ofReal legible ratio) ?_
  rwa [lt_zero_exact_iff, ← Bool.not_eq_true, isShare_exact_iff]

theorem exactSize_of_good (least : 0 ≤ memory) (share : 0 < ratio ∧ ratio ≤ 1)
    (block : 1 ≤ multiple) :
    ∃ n : ℕ, exactSize shown memory ratio multiple = .ok n ∧
      IsGreatest (fitting memory ratio multiple) n := by
  obtain ⟨k, rfl⟩ := Int.eq_ofNat_of_zero_le (show 0 ≤ multiple by omega)
  have positive : 0 < k := by omega
  have bytes : 0 ≤ memory * 1024 ^ 3 * ratio := by
    have part := share.1.le
    positivity
  refine ⟨⌊√(memory * 1024 ^ 3 * ratio / 8)⌋₊ / k * k, ?_, isGreatest_order bytes positive⟩
  have upward : Arithmetic.exact.lt memory (Arithmetic.exact.whole 0) = false := by
    rw [← Bool.not_eq_true, lt_zero_exact_iff]
    exact not_lt.mpr least
  have steps := Arithmetic.exact.sizeFor_of_good (Operand.isNumber_ofReal legible memory)
    (Operand.isNumber_ofReal legible ratio) (Operand.isNumber_ofReal legible ((k : ℤ) : ℝ)) upward
    (isShare_exact_iff.mpr share)
  have gigabytes : ((gigabyte : ℤ) : ℝ) = 1024 ^ 3 := by norm_num [gigabyte]
  have divisor : (k : ℝ) ≠ 0 := by positivity
  have floor : ⌊(⌊√(memory * 1024 ^ 3 * ratio / 8)⌋ : ℝ) / k⌋ =
      ((⌊√(memory * 1024 ^ 3 * ratio / 8)⌋₊ / k : ℕ) : ℤ) := by
    rw [Int.floor_div_natCast, Int.floor_intCast, Int.natCast_div,
      Int.natCast_floor_eq_floor (Real.sqrt_nonneg _)]
  have eight : ((8 : ℤ) : ℝ) = 8 ∧ (8 : ℝ) ≠ 0 := by norm_num
  rw [exactSize, steps]
  simp only [Arithmetic.exact, Arithmetic.orderFor, Attempt.ok_bind, gigabytes, eight, divisor,
    Int.cast_natCast, if_false, floor, Nat.cast_mul]

/-- Only a good memory and a share have a size. -/
theorem good_of_exactSize {x : ℝ} (made : exactSize shown memory ratio multiple = .ok x) :
    0 ≤ memory ∧ 0 < ratio ∧ ratio ≤ 1 := by
  by_contra bad
  have bad : memory < 0 ∨ ¬ (0 < ratio ∧ ratio ≤ 1) := by
    rw [← not_le]
    exact not_and_or.mp bad
  have refusal : ∃ e, exactSize shown memory ratio multiple = .error e ∧ e.kind = .badValue :=
    exactSize_of_bad legible bad
  obtain ⟨e, refused, -⟩ := refusal
  rw [refused] at made
  cases made

/-- **The problem size is the greatest one that fits.** Computed without rounding, there is one for
    every memory from zero on and every share, and it does not get smaller with more memory or a
    greater share. A memory below zero and what is no share are bad values, here and also where
    operations are rounded. -/
theorem exactSize_isGreatest (block : 1 ≤ multiple) :
    (∀ memory ratio : ℝ, 0 ≤ memory → 0 < ratio ∧ ratio ≤ 1 →
      ∃ n : ℕ, exactSize shown memory ratio multiple = .ok n ∧
        IsGreatest {n : ℕ | multiple ∣ n ∧ 8 * (n : ℝ) * n ≤ memory * 1024 ^ 3 * ratio} n) ∧
    (∀ memory memory' ratio ratio' n n' : ℝ, memory ≤ memory' → ratio ≤ ratio' →
      exactSize shown memory ratio multiple = .ok n →
      exactSize shown memory' ratio' multiple = .ok n' → n ≤ n') ∧
    (∀ memory ratio : ℝ, memory < 0 ∨ ¬ (0 < ratio ∧ ratio ≤ 1) →
      ∃ e, exactSize shown memory ratio multiple = .error e ∧ e.kind = .badValue) ∧
    ∀ (memory ratio : Value) (m r : Number), memory.number? = some m → ratio.number? = some r →
      m.lt (.int 0) = true ∨ ((Number.int 0).lt r && r.le (.int 1)) = false →
      ∃ e, suggestSize memory ratio (.int multiple) = .error e ∧ e.kind = .badValue := by
  refine ⟨fun memory ratio least share => exactSize_of_good legible least share block, ?_,
    fun memory ratio bad => exactSize_of_bad legible bad, ?_⟩
  · intro memory memory' ratio ratio' x x' more greater made made'
    obtain ⟨least, share⟩ := good_of_exactSize legible made
    obtain ⟨least', share'⟩ := good_of_exactSize legible made'
    obtain ⟨n, same, ⟨fits, -⟩⟩ := exactSize_of_good legible least share block
    obtain ⟨n', same', ⟨-, greatest⟩⟩ := exactSize_of_good legible least' share' block
    rw [Except.ok.inj (made.symm.trans same), Except.ok.inj (made'.symm.trans same')]
    exact Nat.cast_le.mpr (greatest (fitting_mono least more share.1 greater fits))
  · intro memory ratio m r hm hr bad
    exact Arithmetic.rounded.sizeFor_of_bad (Operand.isNumber_ofValue hm)
      (Operand.isNumber_ofValue hr) bad

end

/-- The size for four fifths of sixteen gigabytes in blocks of 128. -/
theorem exactSize_isGreatest_sixteen :
    exactSize (fun _ => .ok "") 16 (4 / 5) 128 = .ok 41344 ∧
      ∃ e, exactSize (fun _ => .ok "") (-1) (4 / 5) 128 = .error e ∧ e.kind = .badValue := by
  have legible (x : ℝ) (e : Failure)
      (failed : (fun _ : ℝ => (.ok "" : Attempt Text)) x = .error e) : e.kind = .badValue := by
    cases failed
  have block : (1 : ℤ) ≤ 128 := by decide
  obtain ⟨greatest, -, refused, -⟩ := exactSize_isGreatest legible block
  constructor
  · obtain ⟨n, made, ⟨blocks, fits⟩, most⟩ := greatest 16 (4 / 5) (by norm_num) (by norm_num)
    have least : 41344 ≤ n := most ⟨by decide, by norm_num⟩
    have below : n < 41472 := by
      by_contra large
      have large : (41472 : ℝ) ≤ n := by exact_mod_cast Nat.le_of_not_lt large
      nlinarith
    have same : n = 41344 := by omega
    rw [made, same]
    norm_num
  · exact refused (-1) (4 / 5) (.inl (by norm_num))

/-- The size is the same where operations are rounded. -/
example : suggestSize (.int 16) (.real (.ofDecimal false 8 (-1))) (.int 128) =
    .ok (.int 41344) := by
  decide +kernel

end ClusterPrep.Hpl
