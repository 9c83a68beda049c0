import ClusterPrep.Json.Reader
import ClusterPrep.Json.Writer
import ClusterPrep.Proofs.Number.ReadBack
import ClusterPrep.Proofs.Text.Ascii

set_option autoImplicit false

/-
  JSON numbers read back. The grammar of JSON is narrower than that of numerals: no zero may stand
  before other digits, and a point needs digits after it. What is written keeps to it, and a comma
  or a line feed ends it.
-/
namespace ClusterPrep.Json

open Numeral

open Binary64 (Pieces signed exponentText exponentDigits piecesOf)

/-- What follows a value in a text that is written. -/
def Follows (rest : Text) : Prop := ∀ c ∈ rest.head?, c = ',' ∨ c = '\n'

theorem Follows.stops {rest : Text} (follows : Follows rest) : Stops rest := by
  intro c first
  rcases follows c first with rfl | rfl
  · decide
  · decide

/-! ### The pieces of a number -/

/-- Digits of a whole part: a zero stands alone. -/
structure IsWhole (s : Text) : Prop where
  digits : IsDigits s
  ne_nil : s ≠ []
  alone : s.head? = some (.char '0') → s = [.char '0']

/-- Pieces that JSON takes for a number. -/
structure IsNumber (p : Pieces) : Prop where
  whole : IsWhole p.whole
  part : ∀ s, p.part = some s → IsDigits s ∧ s ≠ []

section

variable {rest : Text}

theorem digits_append {s : Text} (each : IsDigits s) (stops : Stops rest) :
    digits (s ++ rest) = (s, rest) := by
  have outside : ∀ c ∈ rest.head?, c.isDigit = false := by
    intro c first
    cases digit : c.isDigit with
    | false => rfl
    | true =>
        have none := (stops c first).1
        rw [digitValue?_of_isDigit digit] at none
        cases none
  obtain ⟨front, back⟩ := Text.span_append each outside
  rw [digits, front, back]

theorem wholePart_append {s : Text} (whole : IsWhole s) (stops : Stops rest) :
    wholePart (s ++ rest) = (s, rest) := by
  by_cases zero : s.head? = some (.char '0')
  · rw [whole.alone zero]
    rfl
  · have all := digits_append whole.digits stops
    rw [wholePart.eq_2 _ fun t front => ?_, all]
    cases s with
    | nil => exact whole.ne_nil rfl
    | cons c s =>
        rw [List.cons_append] at front
        exact zero (by rw [(List.cons.inj front).1]; rfl)

section

variable (follows : Follows rest)
include follows

theorem head_powerText_append (p : Pieces) :
    ∀ c ∈ (p.powerText ++ rest).head?, c = 'e' ∨ c = ',' ∨ c = '\n' := by
  unfold Pieces.powerText
  cases p.power with
  | none => exact fun c first => Or.inr (follows c first)
  | some e => exact fun c first => Or.inl (Option.some.inj first).symm

theorem exponentPart_powerText (p : Pieces) :
    exponentPart (p.powerText ++ rest) = (p.powerText, rest) := by
  unfold Pieces.powerText
  cases p.power with
  | none =>
      cases rest with
      | nil => rfl
      | cons c rest =>
          have other : ¬ (c = 'e' ∨ c = 'E') := by
            rcases follows c rfl with rfl | rfl
            · decide
            · decide
          rw [List.nil_append, exponentPart.eq_def]
          dsimp only
          rw [if_neg other]
  | some e =>
      have run := digits_append (Binary64.isDigits_exponentDigits e) follows.stops
      have some := Binary64.exponentDigits_ne_nil e
      dsimp only
      rw [Binary64.exponentText_eq]
      generalize exponentDigits e = ds at run some
      cases ds with
      | nil => exact absurd rfl some
      | cons d ds =>
          by_cases negative : e < 0
          · rw [if_pos negative, List.cons_append, List.cons_append, exponentPart.eq_2,
              if_pos (Or.inl rfl), run]
            rfl
          · rw [if_neg negative, List.cons_append, List.cons_append, exponentPart.eq_1,
              if_pos (Or.inl rfl), run]
            rfl

variable {p : Pieces} (number : IsNumber p)
include number

theorem fractionPart_partText :
    fractionPart (p.partText ++ (p.powerText ++ rest)) = (p.partText, p.powerText ++ rest) := by
  have after := head_powerText_append follows p
  unfold Pieces.partText
  cases present : p.part with
  | some s =>
      obtain ⟨each, some⟩ := number.part s present
      have stops : Stops (p.powerText ++ rest) := by
        intro c first
        rcases after c first with rfl | rfl | rfl <;> decide
      have run := digits_append each stops
      dsimp only
      rw [List.cons_append, fractionPart.eq_1, run]
      cases s with
      | nil => exact absurd rfl some
      | cons d s => rfl
  | none =>
      apply fractionPart.eq_2
      intro tail front
      rw [List.nil_append] at front
      rw [front] at after
      rcases after _ rfl with same | same | same <;> cases same

theorem wholePart_text :
    wholePart (p.text ++ rest) = (p.whole, p.partText ++ (p.powerText ++ rest)) := by
  have stops : Stops (p.partText ++ (p.powerText ++ rest)) := by
    unfold Pieces.partText
    cases p.part with
    | some s => exact Stops.cons (by decide) (by decide)
    | none =>
        intro c first
        rcases head_powerText_append follows p c first with rfl | rfl | rfl <;> decide
  rw [Pieces.text, List.append_assoc, List.append_assoc]
  exact wholePart_append number.whole stops

/-- The scan of a number finds its pieces, and leaves what follows. Without a point and an exponent
    the number is whole. -/
theorem unsignedNumber_int {sgn : Text} {i : Int} (plain : p.partText = [] ∧ p.powerText = [])
    (read : readInt (sgn ++ p.whole) = .ok i) :
    unsignedNumber sgn (p.text ++ rest) = .ok (.int i, rest) := by
  have part := fractionPart_partText follows number
  have power := exponentPart_powerText follows p
  rw [plain.1, plain.2] at part
  rw [plain.2] at power
  rw [unsignedNumber, wholePart_text follows number, plain.1, plain.2]
  cases front : p.whole with
  | nil => exact absurd front number.whole.ne_nil
  | cons c s =>
      rw [front] at read
      simp only [part, power, List.isEmpty_nil, and_self, ↓reduceIte, read]

theorem unsignedNumber_real {sgn : Text} {x : Binary64}
    (shown : p.partText ≠ [] ∨ p.powerText ≠ [])
    (read : readReal (sgn ++ p.whole ++ p.partText ++ p.powerText) = .ok x) :
    unsignedNumber sgn (p.text ++ rest) = .ok (.real x, rest) := by
  have part := fractionPart_partText follows number
  have power := exponentPart_powerText follows p
  have real : ¬ (p.partText.isEmpty = true ∧ p.powerText.isEmpty = true) := by
    rw [List.isEmpty_iff, List.isEmpty_iff]
    rintro ⟨noPart, noPower⟩
    exact shown.elim (fun some => some noPart) fun some => some noPower
  rw [unsignedNumber, wholePart_text follows number]
  cases front : p.whole with
  | nil => exact absurd front number.whole.ne_nil
  | cons c s =>
      rw [front] at read
      simp only [part, power, real, ↓reduceIte, read]

end

end

/-! ### The digits that are written -/

/-- The digits of a number begin with a zero for zero alone. -/
theorem isWhole_ofNat (n : Nat) : IsWhole (ofNat n) where
  digits := IsDigits.ofNat n
  ne_nil := ofNat_ne_nil n
  alone := by
    intro zero
    obtain ⟨s, shown⟩ : ∃ s, ofNat n = .char '0' :: s := by
      cases shown : ofNat n with
      | nil => exact absurd shown (ofNat_ne_nil n)
      | cons c s =>
          rw [shown] at zero
          exact ⟨s, by rw [Option.some.inj zero]⟩
    cases s with
    | nil => exact shown
    | cons d s =>
        -- Without the zero there are fewer digits than the number needs.
        have each : IsDigits (.char '0' :: d :: s) := shown ▸ IsDigits.ofNat n
        have small : valueOf (d :: s) < 10 ^ (d :: s).length := by
          have small : ∀ k ∈ (d :: s).map fun c => c.toNat - 48, k < 10 := by
            intro k member
            obtain ⟨c, inside, rfl⟩ := List.mem_map.mp member
            have bounds := toNat_of_isDigit (each c (List.mem_cons_of_mem _ inside))
            omega
          have bound := ofDigits_lt small
          rwa [List.length_map] at bound
        have worth : valueOf (ofNat n) = valueOf (d :: s) := by
          have first : ofNat n = [.char '0'] ++ d :: s := shown
          have leading : valueOf [.char '0'] = 0 := rfl
          rw [first, valueOf_append, leading, Nat.zero_mul, Nat.zero_add]
        rw [← worth, valueOf_ofNat, ← length_ofNat_le (by simp), shown] at small
        simp at small

theorem eq_zero_of_ofNat {n : Nat} (zero : ofNat n = [.char '0']) : n = 0 := by
  have worth := valueOf_ofNat n
  rw [zero] at worth
  exact worth.symm

/-- The digits in front make up a whole part as well. -/
theorem IsWhole.take {s : Text} (whole : IsWhole s) {n : Nat} (positive : 0 < n) :
    IsWhole (s.take n) where
  digits := whole.digits.take n
  ne_nil := by
    rw [ne_eq, List.take_eq_nil_iff]
    exact fun none => none.elim (Nat.ne_of_gt positive) whole.ne_nil
  alone := by
    intro zero
    rw [List.head?_take, if_neg (Nat.ne_of_gt positive)] at zero
    rw [whole.alone zero]
    exact List.take_of_length_le positive

/-- A tidy decimal number is laid out as JSON has it. -/
theorem isNumber_piecesOf {d : Binary64.Decimal} (tidy : d.IsTidy) : IsNumber (piecesOf d) := by
  have whole := isWhole_ofNat d.digits
  have zero := eq_zero_of_ofNat (n := d.digits)
  have long : 0 < (ofNat d.digits).length := List.length_pos_iff.mpr whole.ne_nil
  have onlyZero : IsWhole (Text.ofString "0") := isWhole_ofNat 0
  rw [piecesOf]
  generalize d.firstPower = first
  generalize ofNat d.digits = ds at whole zero long
  split
  · refine ⟨whole.take Nat.one_pos, fun s present => ?_⟩
    dsimp only at present
    split at present
    · cases present
    · rename_i several
      cases present
      refine ⟨whole.digits.drop 1, ?_⟩
      rw [ne_eq, List.drop_eq_nil_iff]
      omega
  · split
    · refine ⟨onlyZero, fun s present => ?_⟩
      cases present
      exact ⟨(IsDigits.zeros _).append whole.digits, by simp [whole.ne_nil]⟩
    · rename_i above
      split
      · rename_i fits
        refine ⟨⟨whole.digits.append (IsDigits.zeros _), by simp [whole.ne_nil], ?_⟩, ?_⟩
        · intro front
          rw [List.head?_append_of_ne_nil _ whole.ne_nil] at front
          have alone := whole.alone front
          have flat := tidy (zero alone)
          rw [alone] at above fits ⊢
          have none : (([CodePoint.char '0'].length : Int) + d.power).toNat -
              [CodePoint.char '0'].length = 0 := by
            simp only [List.length_singleton] at above fits ⊢
            omega
          rw [none]
          rfl
        · intro s present
          cases present
          exact ⟨onlyZero.digits, onlyZero.ne_nil⟩
      · rename_i inside
        refine ⟨whole.take (by omega), fun s present => ?_⟩
        cases present
        refine ⟨whole.digits.drop _, ?_⟩
        rw [ne_eq, List.drop_eq_nil_iff]
        omega

/-! ### Numbers in front of a text -/

section

variable {c : CodePoint} (digit : c.isDigit = true) (s : Text)
include digit

/-- A name does not begin with a digit. -/
theorem isPrefixOf_eq_false {a : Char} (letter : a.isDigit = false) (t : Text) :
    (.char a :: t : Text).isPrefixOf (c :: s) = false := by
  have other : CodePoint.char a ≠ c := by
    rintro rfl
    rw [CodePoint.isDigit, CodePoint.isChar, letter] at digit
    cases digit
  simp [List.isPrefixOf, other]

theorem atom_of_isDigit : atom (c :: s) = unsignedNumber [] (c :: s) := by
  have no {a : Char} (letter : a.isDigit = false) (t : Text) :
      (.char a :: t : Text).isPrefixOf (c :: s) = false := isPrefixOf_eq_false digit s letter t
  have null : ("null" : Text).isPrefixOf (c :: s) = false := no rfl _
  have holds : ("true" : Text).isPrefixOf (c :: s) = false := no rfl _
  have fails : ("false" : Text).isPrefixOf (c :: s) = false := no rfl _
  have nan : ("NaN" : Text).isPrefixOf (c :: s) = false := no rfl _
  have infinity : ("Infinity" : Text).isPrefixOf (c :: s) = false := no rfl _
  have below : ("-Infinity" : Text).isPrefixOf (c :: s) = false := no rfl _
  simp only [atom, null, holds, fails, nan, infinity, below, Bool.false_eq_true, ↓reduceIte]
  split
  · rename_i minus
    rw [(List.cons.inj minus).1] at digit
    cases digit
  · rfl

theorem atom_minus_of_isDigit : atom ('-' :: c :: s) = unsignedNumber ['-'] (c :: s) := by
  have infinity : ("-Infinity" : Text).isPrefixOf ('-' :: c :: s) = false :=
    isPrefixOf_eq_false digit s (a := 'I') rfl _
  rw [atom]
  simp only [infinity]
  rfl

end

/-- The sign of a numeral. -/
def signText (neg : Bool) : Text := if neg then "-" else ""

theorem signText_append (neg : Bool) (s : Text) : signText neg ++ s = signed neg s := by
  cases neg <;> rfl

theorem ofInt_eq_signed (i : Int) : ofInt i = signed (decide (i < 0)) (ofNat i.natAbs) := by
  simp only [ofInt, signed, decide_eq_true_eq]

/-- A number with a sign or without is scanned after its sign. -/
theorem atom_signed {p : Pieces} (number : IsNumber p) (neg : Bool) (rest : Text) :
    atom (signed neg p.text ++ rest) =
      unsignedNumber (signText neg) (p.text ++ rest) := by
  obtain ⟨c, s, front, digit⟩ : ∃ c s, p.text = c :: s ∧ c.isDigit = true := by
    cases front : p.whole with
    | nil => exact absurd front number.whole.ne_nil
    | cons c s =>
        have each := number.whole.digits
        rw [front] at each
        exact ⟨c, s ++ (p.partText ++ p.powerText), by rw [Pieces.text, front]; rfl,
          each c (by simp)⟩
  rw [front]
  cases neg with
  | false => exact atom_of_isDigit digit _
  | true => exact atom_minus_of_isDigit digit _

section

variable {rest : Text} (follows : Follows rest)
include follows

/-- **A whole number is read back**, unless it has too many digits. -/
theorem atom_ofInt {i : Int} (short : (ofNat i.natAbs).length ≤ maxDigits) :
    atom (ofInt i ++ rest) = .ok (.int i, rest) := by
  have number : IsNumber ⟨ofNat i.natAbs, none, none⟩ :=
    ⟨isWhole_ofNat _, fun _ part => by cases part⟩
  have scan := atom_signed number (decide (i < 0)) rest
  have text : Pieces.text ⟨ofNat i.natAbs, none, none⟩ = ofNat i.natAbs := List.append_nil _
  have read : readInt (signText (decide (i < 0)) ++ ofNat i.natAbs) = .ok i := by
    rw [signText_append, ← ofInt_eq_signed, readInt_ofInt i short]
  rw [text, ← ofInt_eq_signed] at scan
  rw [scan, ← text]
  exact unsignedNumber_int follows number ⟨rfl, rfl⟩ read

/-- **A finite real is read back.** -/
theorem atom_text {x : Binary64} (finite : x.isFinite = true) :
    atom (x.text ++ rest) = .ok (.real x, rest) := by
  obtain ⟨d, laid, tidy⟩ := Binary64.text_eq_layout finite
  have number := isNumber_piecesOf tidy.trim
  have real := Binary64.isReal_piecesOf d.trim
  have read := Binary64.readReal_text finite
  rw [laid, Binary64.text_realLayout] at read ⊢
  rw [atom_signed number]
  apply unsignedNumber_real follows number
  · rcases real.shown with some | some
    · obtain ⟨s, some⟩ := Option.isSome_iff_exists.mp some
      exact Or.inl (by simp [Pieces.partText, some])
    · obtain ⟨e, some⟩ := Option.isSome_iff_exists.mp some
      exact Or.inr (by simp [Pieces.powerText, some, Binary64.exponentText_eq])
  · rw [← signText_append, Pieces.text] at read
    simpa only [List.append_assoc] using read

/-- Reals without value are read back by name. -/
theorem atom_realText (x : Binary64) : atom (realText x ++ rest) = .ok (.real x, rest) := by
  cases x with
  | nan => rfl
  | inf neg => cases neg <;> rfl
  | finite neg m p normal => exact atom_text (x := .finite neg m p normal) follows rfl

end

/-! ### Only ASCII is written -/

open Text (IsAscii)

theorem isAscii_of_isDigits {s : Text} (digits : IsDigits s) : IsAscii s := by
  intro c member
  have bounds := toNat_of_isDigit (digits c member)
  exact Or.inr ⟨by omega, by omega⟩

theorem isAscii_signed {s : Text} (ascii : IsAscii s) (neg : Bool) : IsAscii (signed neg s) := by
  cases neg
  · exact ascii
  · exact ascii.cons (Or.inr (by decide))

theorem isAscii_ofInt (i : Int) : IsAscii (ofInt i) := by
  rw [ofInt_eq_signed]
  exact isAscii_signed (isAscii_of_isDigits (IsDigits.ofNat _)) _

theorem isAscii_exponentText (e : Int) : IsAscii (exponentText e) := by
  have digits := isAscii_of_isDigits (Binary64.isDigits_exponentDigits e)
  rw [Binary64.exponentText_eq]
  refine (digits.cons ?_).cons (Or.inr (by decide))
  split
  · exact Or.inr (by decide)
  · exact Or.inr (by decide)

theorem isAscii_text {p : Pieces} (real : p.IsReal) : IsAscii p.text := by
  refine (isAscii_of_isDigits real.whole).append (IsAscii.append ?_ ?_)
  · have digits := real.part
    unfold Pieces.partText
    cases present : p.part with
    | none => exact IsAscii.nil
    | some s =>
        rw [present] at digits
        exact (isAscii_of_isDigits digits).cons (Or.inr (by decide))
  · unfold Pieces.powerText
    cases p.power with
    | none => exact IsAscii.nil
    | some e => exact isAscii_exponentText e

theorem isAscii_realText (x : Binary64) : IsAscii (realText x) := by
  cases x with
  | nan => decide
  | inf neg => cases neg <;> decide
  | finite neg m p normal =>
      obtain ⟨d, laid, -⟩ := Binary64.text_eq_layout (x := .finite neg m p normal) rfl
      rw [realText.eq_4 _ (by simp) (by simp) (by simp), laid, Binary64.text_realLayout]
      exact isAscii_signed (isAscii_text (Binary64.isReal_piecesOf _)) _

end ClusterPrep.Json
