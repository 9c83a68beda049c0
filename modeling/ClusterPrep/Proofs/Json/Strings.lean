import ClusterPrep.Json.Reader
import ClusterPrep.Json.Writer
import ClusterPrep.Proofs.Text.Ascii
import Mathlib.Algebra.Ring.Nat

set_option autoImplicit false

/-
  JSON strings read back. Every character is written as one escape, as two for a surrogate pair, or
  as it is, and reading takes exactly that much for it.
-/
namespace ClusterPrep.Json

/-! ### Hexadecimal digits -/

theorem hexValue?_digitChar {d : Nat} (digit : d < 16) :
    hexValue? (.char (Nat.digitChar d)) = some d := by
  have each : ∀ d ∈ List.range 16, hexValue? (.char (Nat.digitChar d)) = some d := by decide
  exact each d (List.mem_range.mpr digit)

theorem hexNumber?_append (s : Text) (c : CodePoint) :
    hexNumber? (s ++ [c]) =
      (hexNumber? s).bind fun n => (hexValue? c).map (16 * n + ·) := by
  rw [hexNumber?, List.foldl_append]
  rfl

/-- The last digits of a number are read as its remainder. -/
theorem hexNumber?_hexDigits (width n : Nat) :
    hexNumber? (Text.hexDigits width n) = some (n % 16 ^ width) := by
  induction width generalizing n with
  | zero => simp [Text.hexDigits, hexNumber?, Nat.mod_one]
  | succ width ih =>
      have last := hexValue?_digitChar (Nat.mod_lt n (by decide : 0 < 16))
      have remainder : n % 16 ^ (width + 1) = 16 * (n / 16 % 16 ^ width) + n % 16 := by
        rw [Nat.pow_succ', Nat.mod_mul, Nat.add_comm]
      rw [Text.hexDigits, hexNumber?_append, ih, last, remainder]
      rfl

/-- A unit of sixteen bits is written with four digits. -/
theorem hexDigits_four {n : Nat} (small : n < 0x10000) :
    ∃ a b c d, Text.hexDigits 4 n = [a, b, c, d] ∧ hexNumber? [a, b, c, d] = some n := by
  refine ⟨_, _, _, _, rfl, ?_⟩
  have value := hexNumber?_hexDigits 4 n
  have remainder : n % 16 ^ 4 = n := Nat.mod_eq_of_lt small
  rw [remainder] at value
  exact value

/-! ### One character -/

theorem isHighHalf_iff {n : Nat} : isHighHalf n = true ↔ 0xD800 ≤ n ∧ n ≤ 0xDBFF := by
  rw [isHighHalf, Bool.and_eq_true, decide_eq_true_eq, decide_eq_true_eq]

theorem isLowHalf_iff {n : Nat} : isLowHalf n = true ↔ 0xDC00 ≤ n ∧ n ≤ 0xDFFF := by
  rw [isLowHalf, Bool.and_eq_true, decide_eq_true_eq, decide_eq_true_eq]

/-- What was read, with a character in front. -/
def prepend (c : CodePoint) (r : Text × Text) : Text × Text := (c :: r.1, r.2)

section

variable (t : Text)

theorem stringBody_escape {e c : CodePoint} (named : escapeChar? e = some c) :
    stringBody none ('\\' :: e :: t) = (stringBody none t).map (prepend c) := by
  have notUnit : e ≠ 'u' := by
    rintro rfl
    cases named
  rw [stringBody.eq_3 none e t fun _ _ _ _ _ unit _ => notUnit unit, named]
  dsimp only
  cases stringBody none t <;> rfl

theorem stringBody_plain {c : CodePoint} (notQuote : c ≠ '"') (notEscape : c ≠ '\\')
    (visible : 32 ≤ c.toNat) :
    stringBody none (c :: t) = (stringBody none t).map (prepend c) := by
  have inside : ¬ (c.toNat < 32 ∨ c = '\\') := by
    rintro (control | escape)
    · omega
    · exact notEscape escape
  rw [stringBody.eq_4 none c t notQuote (fun _ _ _ _ _ escape _ => notEscape escape)
    fun _ _ escape _ => notEscape escape, if_neg inside]
  cases stringBody none t <;> rfl

/-- A unit that is no half of a surrogate pair. -/
theorem stringBody_unit {n : Nat} (small : n < 0x10000) (notHigh : isHighHalf n = false)
    (notLow : isLowHalf n = false) :
    stringBody none (unitEscape n ++ t) =
      (stringBody none t).map (prepend (CodePoint.ofNat n)) := by
  obtain ⟨a, b, c, d, digits, value⟩ := hexDigits_four small
  rw [unitEscape, digits]
  simp only [List.cons_append, List.nil_append, stringBody.eq_2, value, notHigh, notLow]
  cases stringBody none t <;> rfl

/-- Two units that make up a surrogate pair. -/
theorem stringBody_pair (hi lo : Nat) (high : isHighHalf hi = true) (low : isLowHalf lo = true) :
    stringBody none (unitEscape hi ++ (unitEscape lo ++ t)) =
      (stringBody none t).map
        (prepend (CodePoint.ofNat (0x10000 + (hi - 0xD800) * 0x400 + (lo - 0xDC00)))) := by
  have notHigh : isHighHalf lo = false := by
    rw [isLowHalf_iff] at low
    rw [Bool.eq_false_iff, ne_eq, isHighHalf_iff]
    omega
  have small (n : Nat) (half : isHighHalf n = true ∨ isLowHalf n = true) : n < 0x10000 := by
    rw [isHighHalf_iff, isLowHalf_iff] at half
    omega
  obtain ⟨a, b, c, d, digits, value⟩ := hexDigits_four (small hi (Or.inl high))
  obtain ⟨a', b', c', d', digits', value'⟩ := hexDigits_four (small lo (Or.inr low))
  rw [unitEscape, digits, unitEscape, digits']
  simp only [List.cons_append, List.nil_append, stringBody.eq_2, value, value', high, low, notHigh]
  cases stringBody none t <;> rfl

end

/-- Every character is read from what it is written as. -/
theorem stringBody_escapedChar {c : CodePoint} (whole : c.isHalf = false) (t : Text) :
    stringBody none (escapedChar c ++ t) = (stringBody none t).map (prepend c) := by
  have known {n : Nat} (number : c.toNat = n) : c = CodePoint.ofNat n := by
    rw [← number, CodePoint.ofNat_toNat]
  have valid : c.toNat < 0xD800 ∨ (0xDFFF < c.toNat ∧ c.toNat < 0x110000) := by
    cases c with
    | half n => cases whole
    | char c =>
        have valid := c.valid
        simp only [UInt32.isValidChar, Nat.isValidChar] at valid
        exact valid
  rw [escapedChar]
  split
  · rename_i quote
    subst quote
    exact stringBody_escape t rfl
  rename_i notQuote
  split
  · rename_i escape
    subst escape
    exact stringBody_escape t rfl
  rename_i notEscape
  split
  · rename_i visible
    exact stringBody_plain t notQuote notEscape visible.1
  rename_i hidden
  iterate 5
    split
    · rename_i number
      rw [known number]
      exact stringBody_escape t rfl
  split
  · rename_i small
    have unit := stringBody_unit t small
    rw [CodePoint.ofNat_toNat] at unit
    apply unit
    · rw [Bool.eq_false_iff, ne_eq, isHighHalf_iff]
      omega
    · rw [Bool.eq_false_iff, ne_eq, isLowHalf_iff]
      omega
  · rename_i large
    have pair := stringBody_pair t (0xD800 + (c.toNat - 0x10000) / 0x400)
      (0xDC00 + (c.toNat - 0x10000) % 0x400)
    have number : 0x10000 + (0xD800 + (c.toNat - 0x10000) / 0x400 - 0xD800) * 0x400 +
        (0xDC00 + (c.toNat - 0x10000) % 0x400 - 0xDC00) = c.toNat := by omega
    rw [number, CodePoint.ofNat_toNat] at pair
    rw [List.append_assoc]
    apply pair
    · rw [isHighHalf_iff]
      omega
    · rw [isLowHalf_iff]
      omega

/-- **A text is read back from its JSON string**, and what follows the string is left. -/
theorem stringBody_stringText {s : Text} (whole : ∀ c ∈ s, c.isHalf = false) (rest : Text) :
    stringBody none (s.flatMap escapedChar ++ .char '"' :: rest) = .ok (s, rest) := by
  induction s with
  | nil => rfl
  | cons c s ih =>
      have tail := ih fun d member => whole d (List.mem_cons_of_mem c member)
      rw [List.flatMap_cons, List.append_assoc, stringBody_escapedChar (whole c (by simp)), tail]
      rfl

/-! ### Only ASCII is written -/

open Text (IsAscii IsVisible)

theorem isAscii_hexDigits (width n : Nat) : IsAscii (Text.hexDigits width n) := by
  induction width generalizing n with
  | zero => exact IsAscii.nil
  | succ width ih =>
      have each : ∀ d ∈ List.range 16, IsVisible (.char (Nat.digitChar d)) := by decide
      have last := each _ (List.mem_range.mpr (Nat.mod_lt n (by decide)))
      exact (ih (n / 16)).append (IsAscii.nil.cons (Or.inr last))

theorem isAscii_unitEscape (n : Nat) : IsAscii (unitEscape n) :=
  ((isAscii_hexDigits 4 n).cons (Or.inr (by decide))).cons (Or.inr (by decide))

theorem isAscii_escapedChar (c : CodePoint) : IsAscii (escapedChar c) := by
  rw [escapedChar]
  split
  · decide
  split
  · decide
  split
  · rename_i visible
    exact IsAscii.nil.cons (Or.inr visible)
  iterate 5
    split
    · decide
  split
  · exact isAscii_unitEscape _
  · exact (isAscii_unitEscape _).append (isAscii_unitEscape _)

theorem isAscii_stringText (s : Text) : IsAscii (stringText s) := by
  have quote : IsAscii "\"" := by decide
  refine (quote.append fun c member => ?_).append quote
  obtain ⟨d, -, inside⟩ := List.mem_flatMap.mp member
  exact isAscii_escapedChar d c inside

end ClusterPrep.Json
