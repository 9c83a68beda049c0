import ClusterPrep.Number.Numeral
import ClusterPrep.Proofs.Text.Words
import Mathlib.Algebra.Ring.Nat

set_option autoImplicit false

/-
  Runs of decimal digits: what those of ASCII are worth, that readers take runs of every script
  whole, and that the digits of a number are worth the number.
-/
namespace ClusterPrep.Numeral

/-- Digits of ASCII only. -/
def IsDigits (s : Text) : Prop := ∀ c ∈ s, c.isDigit = true

/-- The number that digits of ASCII stand for. -/
def valueOf (s : Text) : Nat := ofDigits (s.map fun c => c.toNat - 48)

theorem toNat_of_isDigit {c : CodePoint} (digit : c.isDigit = true) :
    48 ≤ c.toNat ∧ c.toNat ≤ 57 := by
  cases c with
  | half n => cases digit
  | char c =>
      have bounds : Char.isDigit c = true := digit
      simp only [Char.isDigit, Bool.and_eq_true, decide_eq_true_eq, ge_iff_le,
        UInt32.le_iff_toNat_le] at bounds
      exact bounds

theorem digitValue?_of_isDigit {c : CodePoint} (digit : c.isDigit = true) :
    Text.digitValue? c = some (c.toNat - 48) := by
  have bounds := toNat_of_isDigit digit
  have ascii : c.toNat < 128 := by omega
  rw [Text.digitValue?, if_pos ascii, if_pos bounds]

theorem isDecimalDigit_of_isDigit {c : CodePoint} (digit : c.isDigit = true) :
    Text.isDecimalDigit c = true := by
  rw [Text.isDecimalDigit, digitValue?_of_isDigit digit]
  rfl

theorem isBlank_of_isDigit {c : CodePoint} (digit : c.isDigit = true) :
    Text.isBlank c = false := by
  have bounds := toNat_of_isDigit digit
  simp only [Text.isBlank, Bool.or_eq_false_iff, Bool.and_eq_false_imp, decide_eq_true_eq,
    decide_eq_false_iff_not, beq_eq_false_iff_ne]
  omega

theorem isMargin_of_not_isBlank {c : CodePoint} (clear : Text.isBlank c = false) :
    isMargin c = false := by
  rw [isMargin, clear]
  rfl

namespace IsDigits

theorem nil : IsDigits [] := by
  intro c member
  cases member

theorem cons_iff (c : CodePoint) (s : Text) :
    IsDigits (c :: s) ↔ c.isDigit = true ∧ IsDigits s := by
  simp [IsDigits]

theorem append {s t : Text} (front : IsDigits s) (back : IsDigits t) : IsDigits (s ++ t) := by
  intro c member
  rcases List.mem_append.mp member with member | member
  · exact front c member
  · exact back c member

theorem zeros (n : Nat) : IsDigits (Text.copies n '0') := by
  intro c member
  rw [List.eq_of_mem_replicate member]
  rfl

theorem ofNat (n : Nat) : IsDigits (Numeral.ofNat n) := by
  intro c member
  obtain ⟨d, inside, rfl⟩ := List.mem_map.mp member
  exact Nat.isDigit_of_mem_toDigits (by decide) (by decide) inside

theorem take {s : Text} (digits : IsDigits s) (n : Nat) : IsDigits (s.take n) :=
  fun c member => digits c (List.mem_of_mem_take member)

theorem drop {s : Text} (digits : IsDigits s) (n : Nat) : IsDigits (s.drop n) :=
  fun c member => digits c (List.mem_of_mem_drop member)

theorem clear {s : Text} (digits : IsDigits s) : ∀ c ∈ s, Text.isBlank c = false :=
  fun c member => isBlank_of_isDigit (digits c member)

end IsDigits

/-- A character of numerals: a digit, the point, the mark of an exponent or a sign. -/
def IsNumeric (c : CodePoint) : Prop := c.isDigit = true ∨ c = '.' ∨ c = 'e' ∨ c = '+' ∨ c = '-'

namespace IsNumeric

variable {c : CodePoint} (numeric : IsNumeric c)
include numeric

theorem clear : Text.isBlank c = false := by
  rcases numeric with digit | rfl | rfl | rfl | rfl
  · exact isBlank_of_isDigit digit
  · decide
  · decide
  · decide
  · decide

/-- A comma is not among them, so that it can stand between numerals. -/
theorem ne_comma : c ≠ ',' := by
  rintro rfl
  revert numeric
  unfold IsNumeric
  decide

end IsNumeric

theorem ofNat_ne_nil (n : Nat) : ofNat n ≠ [] := by
  simp [ofNat, Text.ofChars]

theorem isWord_ofNat (n : Nat) : Text.IsWord (ofNat n) :=
  ⟨ofNat_ne_nil n, (IsDigits.ofNat n).clear⟩

/-! ### What digits are worth -/

theorem ofDigits_append (ds es : List Nat) :
    ofDigits (ds ++ es) = ofDigits ds * 10 ^ es.length + ofDigits es := by
  have shifted (start : Nat) :
      es.foldl (fun n d => 10 * n + d) start = start * 10 ^ es.length + ofDigits es := by
    unfold ofDigits
    induction es generalizing start with
    | nil => simp
    | cons e es ih =>
        rw [List.foldl_cons, List.foldl_cons, ih, ih (10 * 0 + e), List.length_cons, Nat.pow_succ]
        simp only [Nat.add_mul, Nat.mul_zero, Nat.zero_add]
        ac_rfl
  rw [ofDigits, List.foldl_append, shifted]
  rfl

theorem valueOf_append (s t : Text) :
    valueOf (s ++ t) = valueOf s * 10 ^ t.length + valueOf t := by
  rw [valueOf, List.map_append, ofDigits_append, List.length_map]
  rfl

theorem valueOf_zeros (n : Nat) : valueOf (Text.copies n '0') = 0 := by
  induction n with
  | zero => rfl
  | succ n ih =>
      have split : Text.copies (n + 1) '0' = [.char '0'] ++ Text.copies n '0' := rfl
      have zero : valueOf [.char '0'] = 0 := rfl
      rw [split, valueOf_append, ih, zero, Nat.zero_mul]

/-- The digits of a number are worth the number. -/
@[simp] theorem valueOf_ofNat (n : Nat) : valueOf (ofNat n) = n := by
  have core := Nat.ofDigitChars_ten_toDigits (n := n)
  rw [Nat.ofDigitChars_eq_foldl] at core
  rw [valueOf, ofNat, Text.ofChars, List.map_map, ofDigits, List.foldl_map]
  exact core

/-! ### Reading digits -/

/-- What ends a run of digits: nothing, or a character that is neither a digit nor an underscore. -/
def Stops (rest : Text) : Prop :=
  ∀ c ∈ rest.head?, Text.digitValue? c = none ∧ c ≠ '_'

theorem Stops.nil : Stops [] := by
  intro c member
  cases member

theorem Stops.cons {c : CodePoint} {rest : Text} (other : Text.digitValue? c = none)
    (apart : c ≠ '_') : Stops (c :: rest) := by
  intro d member
  cases Option.some.inj member
  exact ⟨other, apart⟩

/-- Decimal digits of any script. -/
def IsDecimal (s : Text) : Prop := ∀ c ∈ s, Text.isDecimalDigit c = true

theorem isDecimal_cons {c : CodePoint} {s : Text} :
    IsDecimal (c :: s) ↔ Text.isDecimalDigit c = true ∧ IsDecimal s := List.forall_mem_cons

/-- What the decimal digits of a text are worth, one by one. -/
def values (s : Text) : List Nat := s.filterMap Text.digitValue?

theorem IsDecimal.length_values {s : Text} (digits : IsDecimal s) :
    (values s).length = s.length := by
  rw [values, List.length_filterMap_eq_countP, List.countP_eq_length]
  exact digits

theorem IsDecimal.values_eq_nil_iff {s : Text} (digits : IsDecimal s) :
    values s = [] ↔ s = [] := by
  rw [← List.length_eq_zero_iff, digits.length_values, List.length_eq_zero_iff]

theorem IsDigits.decimal {s : Text} (digits : IsDigits s) : IsDecimal s :=
  fun c member => isDecimalDigit_of_isDigit (digits c member)

theorem IsDigits.values_eq {s : Text} (digits : IsDigits s) :
    values s = s.map fun c => c.toNat - 48 := by
  rw [values, ← List.filterMap_eq_map']
  exact List.filterMap_congr fun c member => digitValue?_of_isDigit (digits c member)

/-- A run takes all digits in front, and no more, when something else follows. -/
theorem digitRun_of_isDecimal {s rest : Text} (digits : IsDecimal s) (stops : Stops rest)
    (after : Bool) (started : after = true ∨ s ≠ []) :
    digitRun after (s ++ rest) = some (values s, rest) := by
  induction s generalizing after with
  | nil =>
      have after : after = true := by simpa using started
      subst after
      cases rest with
      | nil => rfl
      | cons c rest =>
          obtain ⟨other, apart⟩ := stops c rfl
          simp [digitRun, values, other, apart]
  | cons c s ih =>
      obtain ⟨head, tail⟩ := isDecimal_cons.mp digits
      obtain ⟨d, digit⟩ := Option.isSome_iff_exists.mp head
      simp [digitRun, values, digit, ih tail true (Or.inl rfl)]

theorem digitRun_append {s rest : Text} (digits : IsDigits s) (stops : Stops rest)
    (after : Bool) (started : after = true ∨ s ≠ []) :
    digitRun after (s ++ rest) = some (s.map fun c => c.toNat - 48, rest) := by
  rw [← digits.values_eq]
  exact digitRun_of_isDecimal digits.decimal stops after started

theorem optionalRun_of_isDecimal {s rest : Text} (digits : IsDecimal s) (stops : Stops rest) :
    optionalRun (s ++ rest) = some (values s, rest) := by
  cases s with
  | nil =>
      cases rest with
      | nil => rfl
      | cons c rest =>
          have other := (stops c rfl).1
          simp [optionalRun, values, Text.isDecimalDigit, other]
  | cons c s =>
      have head := (isDecimal_cons.mp digits).1
      have run := digitRun_of_isDecimal digits stops false (Or.inr (by simp))
      simpa [optionalRun, head] using run

theorem optionalRun_append {s rest : Text} (digits : IsDigits s) (stops : Stops rest) :
    optionalRun (s ++ rest) = some (s.map fun c => c.toNat - 48, rest) := by
  rw [← digits.values_eq]
  exact optionalRun_of_isDecimal digits.decimal stops

/-- The sign of a text that begins with a digit is none. -/
theorem sign_of_isDigit {c : CodePoint} (digit : c.isDigit = true) (s : Text) :
    sign (c :: s) = (false, c :: s) := by
  unfold sign
  split
  · rename_i same
    cases same
    cases digit
  · rename_i same
    cases same
    cases digit
  · rfl

/-! ### Whole numbers -/

theorem numeric_ofInt (i : Int) : ∀ c ∈ ofInt i, IsNumeric c := by
  intro c member
  unfold ofInt at member
  split at member
  · rcases List.mem_cons.mp member with rfl | member
    · simp [IsNumeric]
    · exact Or.inl (IsDigits.ofNat i.natAbs c member)
  · exact Or.inl (IsDigits.ofNat i.natAbs c member)

theorem isWord_ofInt (i : Int) : Text.IsWord (ofInt i) := by
  refine ⟨?_, fun c member => (numeric_ofInt i c member).clear⟩
  unfold ofInt
  split
  · simp
  · exact ofNat_ne_nil i.natAbs

/-- The sign and the digits of a whole number. -/
theorem sign_ofInt (i : Int) : sign (ofInt i) = (decide (i < 0), ofNat i.natAbs) := by
  unfold ofInt
  by_cases negative : i < 0
  · simp [negative, sign]
  · simp only [negative, ↓reduceIte, decide_false]
    cases digits : ofNat i.natAbs with
    | nil => exact absurd digits (ofNat_ne_nil i.natAbs)
    | cons c s =>
        have all := IsDigits.ofNat i.natAbs
        rw [digits] at all
        exact sign_of_isDigit (all c (by simp)) s

/-- A whole number is read back from its digits, if these are not too many. -/
theorem readInt_ofInt (i : Int) (short : (ofNat i.natAbs).length ≤ maxDigits) :
    readInt (ofInt i) = .ok i := by
  have bare : Text.trimWhile isMargin (ofInt i) = ofInt i :=
    Text.trimWhile_of_forall fun c member => isMargin_of_not_isBlank ((isWord_ofInt i).2 c member)
  have run := digitRun_append (IsDigits.ofNat i.natAbs) Stops.nil false (Or.inr (ofNat_ne_nil _))
  rw [List.append_nil] at run
  have worth : ofDigits ((ofNat i.natAbs).map fun c => c.toNat - 48) = i.natAbs :=
    valueOf_ofNat i.natAbs
  have fits : ¬ maxDigits < ((ofNat i.natAbs).map fun c => c.toNat - 48).length := by
    rw [List.length_map]
    omega
  rw [readInt, bare, sign_ofInt]
  simp only [run, fits, worth, ↓reduceIte, ne_eq, not_true_eq_false]
  by_cases negative : i < 0
  · simp only [negative, decide_true, ↓reduceIte]
    congr 1
    omega
  · simp only [negative, decide_false, Bool.false_eq_true, ↓reduceIte]
    congr 1
    omega

/-- A number with too many digits is refused. -/
theorem readInt_ofNat_of_long {n : Nat} (long : maxDigits < (ofNat n).length) :
    readInt (ofNat n) = .error (.longNumeral (ofNat n).length) := by
  have bare : Text.trimWhile isMargin (ofNat n) = ofNat n :=
    Text.trimWhile_of_forall fun c member => isMargin_of_not_isBlank ((isWord_ofNat n).2 c member)
  have run := digitRun_append (IsDigits.ofNat n) Stops.nil false (Or.inr (ofNat_ne_nil _))
  rw [List.append_nil] at run
  have plain : sign (ofNat n) = (false, ofNat n) := by
    have signs := sign_ofInt n
    rwa [ofInt, if_neg (by omega), Int.natAbs_natCast, decide_eq_false (by omega)] at signs
  rw [readInt, bare, plain]
  simp only [run, List.length_map, long, ↓reduceIte]

theorem writeInt_eq_ok (i : Int) (short : (ofNat i.natAbs).length ≤ maxDigits) :
    writeInt i = .ok (ofInt i) := by
  have fits : ¬ maxDigits < (ofNat i.natAbs).length := by omega
  rw [writeInt, if_neg fits]

/-! ### How long a number is that was read -/

theorem digitValue?_lt {c : CodePoint} {d : Nat} (digit : Text.digitValue? c = some d) :
    d < 10 := by
  rw [Text.digitValue?] at digit
  split at digit
  · split at digit
    · cases digit
      omega
    · cases digit
  · obtain ⟨z, found, rfl⟩ := Option.map_eq_some_iff.mp digit
    have within := List.find?_some found
    simp only [Bool.and_eq_true, decide_eq_true_eq] at within
    omega

theorem digitRun_lt {after : Bool} {s rest : Text} {ds : List Nat}
    (run : digitRun after s = some (ds, rest)) : ∀ d ∈ ds, d < 10 := by
  induction s generalizing after ds with
  | nil =>
      rw [digitRun] at run
      split at run <;> cases run
      simp
  | cons c s ih =>
      rw [digitRun] at run
      split at run
      · rename_i first digit
        obtain ⟨⟨es, tail⟩, others, same⟩ := Option.map_eq_some_iff.mp run
        cases same
        intro d member
        rcases List.mem_cons.mp member with rfl | member
        · exact digitValue?_lt digit
        · exact ih others d member
      · split at run
        · cases run
        · split at run
          · exact ih run
          · cases run
            simp

theorem ofDigits_lt {ds : List Nat} (small : ∀ d ∈ ds, d < 10) :
    ofDigits ds < 10 ^ ds.length := by
  induction ds with
  | nil => decide
  | cons d ds ih =>
      have head := small d (by simp)
      have tail := ih fun e member => small e (List.mem_cons_of_mem d member)
      have leading : ofDigits [d] = d := by simp [ofDigits]
      calc
        ofDigits (d :: ds) = d * 10 ^ ds.length + ofDigits ds := by
          rw [← leading, ← ofDigits_append, leading]
          rfl
        _ < (d + 1) * 10 ^ ds.length := by
          rw [Nat.add_mul, Nat.one_mul]
          exact Nat.add_lt_add_left tail _
        _ ≤ 10 ^ (d :: ds).length := by
          rw [List.length_cons, Nat.pow_succ, Nat.mul_comm _ 10]
          exact Nat.mul_le_mul_right _ head

theorem length_ofNat_le {n k : Nat} (positive : 0 < k) : (ofNat n).length ≤ k ↔ n < 10 ^ k := by
  rw [ofNat, Text.ofChars, List.length_map]
  exact Nat.length_toDigits_le_iff (by decide) positive

/-- A whole number that was read is not too long to be written. -/
theorem length_ofNat_of_readInt {s : Text} {i : Int} (read : readInt s = .ok i) :
    (ofNat i.natAbs).length ≤ maxDigits := by
  rw [readInt] at read
  rcases sign (Text.trimWhile isMargin s) with ⟨neg, body⟩
  dsimp only at read
  split at read
  · cases read
  · rename_i ds rest run
    split at read
    · cases read
    · rename_i short
      split at read
      · cases read
      · have worth : i.natAbs = ofDigits ds := by
          have same := Except.ok.inj read
          split at same <;> omega
        have long : 10 ^ ds.length ≤ 10 ^ maxDigits :=
          Nat.pow_le_pow_right (by decide) (Nat.le_of_not_lt short)
        rw [length_ofNat_le (by decide), worth]
        exact Nat.lt_of_lt_of_le (ofDigits_lt (digitRun_lt run)) long

/-- A text that is no whole number is a bad value. -/
theorem kind_of_readInt {s : Text} {e : Failure} (refused : readInt s = .error e) :
    e.kind = .badValue := by
  rw [readInt] at refused
  rcases sign (Text.trimWhile isMargin s) with ⟨neg, body⟩
  dsimp only at refused
  split at refused
  · cases refused
    rfl
  · split at refused
    · cases refused
      rfl
    · split at refused
      · cases refused
        rfl
      · cases refused

end ClusterPrep.Numeral
