import ClusterPrep.Number.Shortest
import ClusterPrep.Proofs.Number.Digits
import ClusterPrep.Proofs.Number.ExactRounding

set_option autoImplicit false

/-
  The text of a real reads back as that real. Every text is digits with a point or an exponent, and
  reading such a text gives the decimal number that was laid out. The shortest text was tried by
  reading it; the exact one, which would be taken if no shorter text read back, needs no trial.
-/
namespace ClusterPrep.Binary64

open Numeral

/-! ### The same number with other digits -/

/-- The decimal number is exactly `u` units. -/
def Decimal.IsUnits (d : Decimal) (u : Nat) : Prop :=
  d.digits * one * 10 ^ d.power.toNat = u * 10 ^ (-d.power).toNat

/-- Zeros at the end of the digits count as much as the power. -/
theorem Decimal.isUnits_scale (digits n u : Nat) (e : Int) :
    Decimal.IsUnits ⟨digits * 10 ^ n, e⟩ u ↔ Decimal.IsUnits ⟨digits, e + n⟩ u := by
  have balance : n + e.toNat + (-(e + n)).toNat = (e + n).toNat + (-e).toNat := by omega
  have left : digits * 10 ^ n * one * 10 ^ e.toNat * 10 ^ (-(e + n)).toNat =
      digits * one * 10 ^ (e + n).toNat * 10 ^ (-e).toNat := by
    calc
      _ = digits * one * 10 ^ (n + e.toNat + (-(e + n)).toNat) := by
        simp only [Nat.pow_add]
        ring
      _ = digits * one * 10 ^ (e + n).toNat * 10 ^ (-e).toNat := by
        rw [balance, Nat.pow_add]
        simp only [Nat.mul_assoc]
  have right : u * 10 ^ (-e).toNat * 10 ^ (-(e + n)).toNat =
      u * 10 ^ (-(e + n)).toNat * 10 ^ (-e).toNat := Nat.mul_right_comm _ _ _
  have first : 0 < 10 ^ (-(e + n)).toNat := by positivity
  have second : 0 < 10 ^ (-e).toNat := by positivity
  unfold IsUnits
  dsimp only
  constructor
  · intro exact
    apply Nat.eq_of_mul_eq_mul_right second
    rw [← left, ← right, exact]
  · intro exact
    apply Nat.eq_of_mul_eq_mul_right first
    rw [left, right, exact]

theorem Decimal.isUnits_trimFor (k : Nat) (d : Decimal) (u : Nat) :
    (d.trimFor k).IsUnits u ↔ d.IsUnits u := by
  induction k generalizing d with
  | zero => rfl
  | succ k ih =>
      rw [trimFor]
      split
      · rename_i tens
        rw [ih]
        have scaled : d.digits = d.digits / 10 * 10 ^ 1 := by omega
        have step := isUnits_scale (d.digits / 10) 1 u d.power
        rw [← scaled] at step
        exact step.symm
      · rfl

theorem Decimal.isUnits_trim (d : Decimal) (u : Nat) : d.trim.IsUnits u ↔ d.IsUnits u :=
  isUnits_trimFor _ d u

/-- The exact decimal number has a digit for every unit. -/
theorem isUnits_exact (x : Binary64) : x.exact.IsUnits x.units.natAbs := by
  have base : Nat.pow 5 1074 * one = 10 ^ 1074 := by decide +kernel
  have flat : (-1074 : Int).toNat = 0 := rfl
  have lift : (-(-1074) : Int).toNat = 1074 := rfl
  rw [Decimal.IsUnits, exact, flat, lift, Nat.pow_zero, Nat.mul_one, Nat.mul_assoc, base]

/-! ### Pieces of a numeral -/

/-- The pieces of an unsigned numeral: digits, a point and digits, an exponent. -/
structure Pieces where
  whole : Text
  part : Option Text := none
  power : Option Int := none

namespace Pieces

def partText (p : Pieces) : Text :=
  match p.part with
  | some s => '.' :: s
  | none => []

def powerText (p : Pieces) : Text :=
  match p.power with
  | some e => exponentText e
  | none => []

/-- The numeral. -/
def text (p : Pieces) : Text := p.whole ++ (p.partText ++ p.powerText)

/-- The number that the pieces stand for. -/
def decimal (p : Pieces) : Decimal :=
  ⟨valueOf (p.whole ++ p.part.getD []), p.power.getD 0 - ((p.part.getD []).length : Int)⟩

/-- The pieces of a real: digits in front, and a point or an exponent to tell it from a whole
    number. -/
structure IsReal (p : Pieces) : Prop where
  whole_ne_nil : p.whole ≠ []
  whole : IsDigits p.whole
  part : IsDigits (p.part.getD [])
  shown : p.part.isSome ∨ p.power.isSome

end Pieces

/-- A numeral with a minus sign or without. -/
def signed (neg : Bool) (s : Text) : Text := if neg then '-' :: s else s

theorem stops_exponentText (e : Int) : Stops (exponentText e) :=
  Stops.cons (by decide) (by decide)

/-- The digits of an exponent, at least two. -/
def exponentDigits (e : Int) : Text :=
  Text.copies (2 - (ofNat e.natAbs).length) '0' ++ ofNat e.natAbs

theorem exponentText_eq (e : Int) :
    exponentText e = .char 'e' :: (if e < 0 then .char '-' else .char '+') :: exponentDigits e :=
  rfl

theorem isDigits_exponentDigits (e : Int) : IsDigits (exponentDigits e) :=
  (IsDigits.zeros _).append (IsDigits.ofNat _)

theorem exponentDigits_ne_nil (e : Int) : exponentDigits e ≠ [] := by
  simp [exponentDigits, ofNat_ne_nil]

theorem valueOf_exponentDigits (e : Int) : valueOf (exponentDigits e) = e.natAbs := by
  rw [exponentDigits, valueOf_append, valueOf_zeros, valueOf_ofNat, Nat.zero_mul, Nat.zero_add]

/-- An exponent is read back. -/
theorem exponent_exponentText (e : Int) : exponent (exponentText e) = some e := by
  have run := digitRun_append (isDigits_exponentDigits e) Stops.nil false
    (Or.inr (exponentDigits_ne_nil e))
  rw [List.append_nil] at run
  have worth := valueOf_exponentDigits e
  unfold valueOf at worth
  rw [exponentText_eq, exponent]
  by_cases negative : e < 0
  · simp only [negative, ↓reduceIte, true_or, sign, run, worth]
    congr 1
    omega
  · simp only [negative, ↓reduceIte, true_or, sign, run, worth, Bool.false_eq_true]
    congr 1
    omega

theorem numeric_exponentText (e : Int) : ∀ c ∈ exponentText e, IsNumeric c := by
  intro c member
  rw [exponentText_eq] at member
  rcases List.mem_cons.mp member with rfl | member
  · simp [IsNumeric]
  · rcases List.mem_cons.mp member with rfl | member
    · split <;> simp [IsNumeric]
    · exact Or.inl (isDigits_exponentDigits e c member)

namespace Pieces

variable {p : Pieces}

theorem stops_powerText (p : Pieces) : Stops p.powerText := by
  unfold powerText
  cases p.power with
  | none => exact Stops.nil
  | some e => exact stops_exponentText e

theorem stops_tail (p : Pieces) : Stops (p.partText ++ p.powerText) := by
  unfold partText
  cases p.part with
  | none => exact p.stops_powerText
  | some s => exact Stops.cons (by decide) (by decide)

theorem tail_ne_nil (real : p.IsReal) : p.partText ++ p.powerText ≠ [] := by
  rcases real.shown with shown | shown
  · obtain ⟨s, present⟩ := Option.isSome_iff_exists.mp shown
    simp [partText, present]
  · obtain ⟨e, present⟩ := Option.isSome_iff_exists.mp shown
    simp [powerText, present, exponentText_eq]

theorem fraction_tail (real : p.IsReal) :
    fraction (p.partText ++ p.powerText) =
      some ((p.part.getD []).map fun c => c.toNat - 48, p.powerText) := by
  have digits := real.part
  unfold partText
  cases present : p.part with
  | some s =>
      rw [present] at digits
      exact optionalRun_append digits p.stops_powerText
  | none =>
      rw [List.nil_append, fraction.eq_def]
      split
      · rename_i dot
        unfold powerText at dot
        split at dot <;> cases dot
      · rfl

theorem exponent_powerText (p : Pieces) : exponent p.powerText = some (p.power.getD 0) := by
  unfold powerText
  cases p.power with
  | none => rfl
  | some e => exact exponent_exponentText e

/-- Reading a numeral gives the number that its pieces stand for. -/
theorem unsignedReal_text (real : p.IsReal) (neg : Bool) :
    unsignedReal neg p.text = some (ofDecimal neg p.decimal.digits p.decimal.power) := by
  have front := optionalRun_append real.whole p.stops_tail
  have nonempty : p.whole.map (fun c => c.toNat - 48) ≠ [] := by simp [real.whole_ne_nil]
  simp only [unsignedReal, text, front, Option.bind_some, fraction_tail real, nonempty, false_and,
    ↓reduceIte, exponent_powerText, Option.map_some, ← List.map_append, List.length_map]
  rfl

theorem numeric_text (real : p.IsReal) : ∀ c ∈ p.text, IsNumeric c := by
  intro c member
  rcases List.mem_append.mp member with member | member
  · exact Or.inl (real.whole c member)
  rcases List.mem_append.mp member with member | member
  · have digits := real.part
    unfold partText at member
    cases present : p.part with
    | none =>
        rw [present] at member
        cases member
    | some s =>
        rw [present] at member digits
        rcases List.mem_cons.mp member with rfl | member
        · simp [IsNumeric]
        · exact Or.inl (digits c member)
  · unfold powerText at member
    cases present : p.power with
    | none =>
        rw [present] at member
        cases member
    | some e =>
        rw [present] at member
        exact numeric_exponentText e c member

theorem numeric_signed (real : p.IsReal) (neg : Bool) :
    ∀ c ∈ signed neg p.text, IsNumeric c := by
  cases neg
  · exact numeric_text real
  · intro c member
    rcases List.mem_cons.mp member with rfl | member
    · simp [IsNumeric]
    · exact numeric_text real c member

/-- A numeral begins with a digit. -/
theorem text_eq_cons (real : p.IsReal) : ∃ c rest, p.text = c :: rest ∧ c.isDigit = true := by
  cases front : p.whole with
  | nil => exact absurd front real.whole_ne_nil
  | cons c s =>
      have digits := real.whole
      rw [front] at digits
      exact ⟨c, s ++ (p.partText ++ p.powerText), by rw [text, front]; rfl, digits c (by simp)⟩

theorem isWord_signed (real : p.IsReal) (neg : Bool) : Text.IsWord (signed neg p.text) := by
  refine ⟨?_, fun c member => (numeric_signed real neg c member).clear⟩
  have front : p.text ≠ [] := by simp [text, real.whole_ne_nil]
  cases neg
  · exact front
  · exact List.cons_ne_nil _ _

theorem sign_signed (real : p.IsReal) (neg : Bool) :
    sign (signed neg p.text) = (neg, p.text) := by
  cases neg
  · obtain ⟨c, rest, same, digit⟩ := text_eq_cons real
    change sign p.text = _
    rw [same]
    exact sign_of_isDigit digit rest
  · rfl

end Pieces

/-- A signed numeral is read as the number of its pieces. It begins with a digit, so that it is no
    name of infinity or of what is not a number. -/
theorem readReal_signed {p : Pieces} (real : p.IsReal) (neg : Bool) :
    readReal (signed neg p.text) = .ok (ofDecimal neg p.decimal.digits p.decimal.power) := by
  have bare : Text.trimWhile isMargin (signed neg p.text) = signed neg p.text :=
    Text.trimWhile_of_forall fun c member =>
      isMargin_of_not_isBlank ((Pieces.isWord_signed real neg).2 c member)
  have noName (c : CodePoint) (name : Text) (other : 57 < c.toNat) :
      p.text.map CodePoint.toLower ≠ c :: name := by
    obtain ⟨d, rest, same, digit⟩ := Pieces.text_eq_cons real
    intro equal
    rw [same, List.map_cons] at equal
    have head : d.toLower = c := (List.cons.inj equal).1
    have bounds := toNat_of_isDigit digit
    cases d with
    | half n => cases digit
    | char d =>
        have small : ¬ ('A' ≤ d ∧ d ≤ 'Z') := by
          rintro ⟨least, -⟩
          have least : 65 ≤ d.toNat := least
          have most : d.toNat ≤ 57 := bounds.2
          omega
        have kept : d.toLower = d := dif_neg small
        rw [CodePoint.toLower, kept] at head
        rw [← head] at other
        omega
  have notInf := noName 'i' "nf" (by decide)
  have notInfinity := noName 'i' "nfinity" (by decide)
  have notNan := noName 'n' "an" (by decide)
  have plain : ¬ (p.text.map CodePoint.toLower = Text.ofString "inf" ∨
      p.text.map CodePoint.toLower = Text.ofString "infinity") := by
    rintro (same | same)
    · exact notInf same
    · exact notInfinity same
  have named : p.text.map CodePoint.toLower ≠ Text.ofString "nan" := notNan
  rw [readReal, bare, Pieces.sign_signed real]
  simp only [plain, named, ↓reduceIte, Pieces.unsignedReal_text real]

/-! ### The layout of a real -/

/-- The power of ten of the first digit. -/
def Decimal.firstPower (d : Decimal) : Int :=
  if d.digits = 0 then 0 else (ofNat d.digits).length + d.power - 1

/-- The pieces in which the digits of a decimal number are laid out. -/
def piecesOf (d : Decimal) : Pieces :=
  let ds := ofNat d.digits
  let place : Int := ds.length + d.power
  if d.firstPower < -4 ∨ 16 ≤ d.firstPower then
    { whole := ds.take 1
      part := if ds.length = 1 then none else some (ds.drop 1)
      power := some d.firstPower }
  else if place ≤ 0 then
    { whole := "0", part := some (Text.copies (-place).toNat '0' ++ ds) }
  else if ds.length ≤ place.toNat then
    { whole := ds ++ Text.copies (place.toNat - ds.length) '0', part := some "0" }
  else { whole := ds.take place.toNat, part := some (ds.drop place.toNat) }

theorem text_realLayout (neg : Bool) (d : Decimal) :
    realLayout.text neg d = signed neg (piecesOf d.trim).text := by
  have nonempty := ofNat_ne_nil d.trim.digits
  rw [Layout.text, signed, piecesOf, Decimal.firstPower]
  refine congrArg (fun body : Text => if neg then .char '-' :: body else body) ?_
  generalize (if d.trim.digits = 0 then 0 else _ : Int) = first
  generalize ofNat d.trim.digits = ds at nonempty ⊢
  generalize (ds.length : Int) + d.trim.power = place
  dsimp only [realLayout]
  by_cases far : first < -4 ∨ 16 ≤ first
  · simp only [far, ↓reduceIte]
    cases ds with
    | nil => exact absurd rfl nonempty
    | cons c rest => cases rest <;> simp [Pieces.text, Pieces.partText, Pieces.powerText]
  · simp only [far, ↓reduceIte]
    split
    · simp [Pieces.text, Pieces.partText, Pieces.powerText, Text.ofString, Text.ofChars]
    · split <;>
        simp [Pieces.text, Pieces.partText, Pieces.powerText, Text.ofString, Text.ofChars]

theorem isReal_piecesOf (d : Decimal) : (piecesOf d).IsReal := by
  have nonempty := ofNat_ne_nil d.digits
  have digits := IsDigits.ofNat d.digits
  have zero : IsDigits (Text.ofString "0") := IsDigits.zeros 1
  have zero_ne_nil : Text.ofString "0" ≠ [] := by decide
  rw [piecesOf]
  split
  · refine ⟨?_, digits.take 1, ?_, Or.inr rfl⟩
    · simp [List.take_eq_nil_iff, nonempty]
    · dsimp only
      split
      · exact IsDigits.nil
      · exact digits.drop 1
  · split
    · exact ⟨zero_ne_nil, zero, (IsDigits.zeros _).append digits, Or.inl rfl⟩
    · rename_i below
      split
      · exact ⟨by simp [nonempty], digits.append (IsDigits.zeros _), zero, Or.inl rfl⟩
      · refine ⟨?_, digits.take _, digits.drop _, Or.inl rfl⟩
        simp only [ne_eq, List.take_eq_nil_iff, nonempty, or_false]
        omega

/-- Laying digits out does not change the number. -/
theorem isUnits_piecesOf {d : Decimal} {u : Nat} (exact : d.IsUnits u) :
    (piecesOf d).decimal.IsUnits u := by
  have long : 0 < (ofNat d.digits).length := List.length_pos_iff.mpr (ofNat_ne_nil d.digits)
  have worth := valueOf_ofNat d.digits
  have unchanged {e : Int} (same : e = d.power) {n : Nat} (value : n = d.digits) :
      Decimal.IsUnits ⟨n, e⟩ u := by
    rw [same, value]
    exact exact
  have first : (d.firstPower = 0 ∨ d.firstPower = (ofNat d.digits).length + d.power - 1) := by
    rw [Decimal.firstPower]
    split
    · exact Or.inl rfl
    · exact Or.inr rfl
  rw [piecesOf, Pieces.decimal]
  generalize d.firstPower = place at first ⊢
  generalize ofNat d.digits = ds at long worth first ⊢
  split
  · rename_i far
    by_cases single : ds.length = 1
    · rw [if_pos single]
      refine unchanged ?_ ?_
      · simp only [Option.getD_none, List.length_nil, Option.getD_some]
        omega
      · rw [Option.getD_none, List.append_nil, ← single, List.take_length, worth]
    · rw [if_neg single]
      refine unchanged ?_ ?_
      · simp only [Option.getD_some, List.length_drop]
        omega
      · rw [Option.getD_some, List.take_append_drop, worth]
  · split
    · refine unchanged ?_ ?_
      · simp only [Option.getD_some, Option.getD_none, List.length_append, Text.copies,
          List.length_replicate]
        omega
      · have leading : valueOf (Text.ofString "0") = 0 := rfl
        rw [Option.getD_some, valueOf_append, valueOf_append, valueOf_zeros, worth, leading]
        simp only [Nat.zero_mul, Nat.zero_add]
    · rename_i below
      split
      · rename_i fits
        have value : valueOf (ds ++ Text.copies (((ds.length : Int) + d.power).toNat - ds.length)
            '0' ++ Text.ofString "0") = d.digits * 10 ^ (d.power.toNat + 1) := by
          have last : valueOf (Text.ofString "0") = 0 := rfl
          have count : ((ds.length : Int) + d.power).toNat - ds.length = d.power.toNat := by omega
          rw [count, valueOf_append, valueOf_append, valueOf_zeros, worth, last, Text.copies,
            List.length_replicate, Nat.pow_succ, ← Nat.mul_assoc]
          rfl
        rw [Option.getD_some, value]
        apply (Decimal.isUnits_scale d.digits (d.power.toNat + 1) u _).mpr
        refine unchanged ?_ rfl
        change (0 : Int) - 1 + ((d.power.toNat + 1 : Nat) : Int) = d.power
        omega
      · refine unchanged ?_ ?_
        · simp only [Option.getD_some, Option.getD_none, List.length_drop]
          omega
        · rw [Option.getD_some, List.take_append_drop, worth]

/-! ### The text of a real -/

/-- A decimal number in which zero has no zeros after it. -/
def Decimal.IsTidy (d : Decimal) : Prop := d.digits = 0 → d.power ≤ 0

theorem Decimal.trimFor_of_zero (k : Nat) {d : Decimal} (zero : d.digits = 0) :
    d.trimFor k = d := by
  cases k with
  | zero => rfl
  | succ k => simp [trimFor, zero]

theorem Decimal.trimFor_ne_zero (k : Nat) {d : Decimal} (nonzero : d.digits ≠ 0) :
    (d.trimFor k).digits ≠ 0 := by
  induction k generalizing d with
  | zero => exact nonzero
  | succ k ih =>
      rw [trimFor]
      split
      · rename_i tens
        apply ih
        dsimp only
        omega
      · exact nonzero

theorem Decimal.IsTidy.trim {d : Decimal} (tidy : d.IsTidy) : d.trim.IsTidy := by
  by_cases zero : d.digits = 0
  · rwa [Decimal.trim, trimFor_of_zero _ zero]
  · exact fun trimmed => absurd trimmed (trimFor_ne_zero _ zero)

/-- Zero is what the text of zero stands for. -/
theorem units_of_readsAs_zero {x : Binary64} {neg : Bool} {d : Decimal} (zero : d.digits = 0)
    (reads : readsAs x (realLayout.text neg d) = true) : x.units.natAbs = 0 := by
  have nothing : d.IsUnits 0 := by simp [Decimal.IsUnits, zero]
  have laid := isUnits_piecesOf ((Decimal.isUnits_trim d 0).mpr nothing)
  have digits : (piecesOf d.trim).decimal.digits = 0 := by
    rw [Decimal.IsUnits, Nat.zero_mul, Nat.mul_assoc] at laid
    have scale : 0 < one * 10 ^ (piecesOf d.trim).decimal.power.toNat :=
      Nat.mul_pos one_pos (Nat.pow_pos (by decide))
    exact (Nat.mul_eq_zero.mp laid).resolve_right (Nat.ne_of_gt scale)
  rw [readsAs, text_realLayout, readReal_signed (isReal_piecesOf _), digits, ofDecimal,
    if_pos (Or.inl rfl)] at reads
  rw [beq_iff_eq.mp reads, pack_of_normal (by decide)]
  cases neg <;> rfl

/-- The text of a finite real is a laid out decimal number. -/
theorem text_eq_layout {x : Binary64} (finite : x.isFinite = true) :
    ∃ d, x.text = realLayout.text x.isNegative d ∧ d.IsTidy := by
  cases x with
  | nan => cases finite
  | inf neg => cases finite
  | finite neg m p normal =>
      rw [text]
      cases found : (candidates (.finite neg m p normal)).find?
          (readsAs (.finite neg m p normal)) with
      | none => exact ⟨_, rfl, fun _ => (by decide : (-1074 : Int) ≤ 0)⟩
      | some s =>
          have member := List.mem_of_find?_eq_some found
          rw [candidates] at member
          dsimp only at member
          split at member
          · exact ⟨_, List.mem_singleton.mp member, fun _ => Int.le_refl 0⟩
          · rename_i nonzero
            obtain ⟨n, -, near⟩ := List.mem_flatMap.mp member
            obtain ⟨d, -, same⟩ := List.mem_map.mp near
            refine ⟨d, same.symm, fun zero => absurd ?_ nonzero⟩
            have accepted := List.find?_some found
            rw [← same] at accepted
            exact units_of_readsAs_zero zero accepted

/-- **The text of a finite real reads back as that real.** -/
theorem readReal_text {x : Binary64} (finite : x.isFinite = true) :
    readReal x.text = .ok x := by
  cases x with
  | nan => cases finite
  | inf neg => cases finite
  | finite neg m p normal =>
      rw [text]
      cases found : (candidates (.finite neg m p normal)).find?
          (readsAs (.finite neg m p normal)) with
      | some s =>
          have accepted := List.find?_some found
          rw [readsAs] at accepted
          rw [Option.getD_some]
          cases read : readReal s with
          | error e =>
              rw [read] at accepted
              cases accepted
          | ok y =>
              rw [read] at accepted
              rw [beq_iff_eq.mp accepted]
      | none =>
          -- No shorter text reads back, which leaves the one with a digit for every unit.
          rw [Option.getD_none, text_realLayout, readReal_signed (isReal_piecesOf _)]
          have trimmed := (Decimal.isUnits_trim _ _).mpr (isUnits_exact (.finite neg m p normal))
          have value : (Binary64.finite neg m p normal).units.natAbs = m * 2 ^ p := by
            cases neg
            · exact Int.natAbs_natCast _
            · exact (Int.natAbs_neg _).trans (Int.natAbs_natCast _)
          rw [value] at trimmed
          rw [ofDecimal_of_exact normal (isUnits_piecesOf trimmed)]
          rfl

/-! ### Whole numbers within the reals -/

/-- A whole number within the reals is not too long to be written. -/
theorem length_ofNat_of_ofInt? {i : Int} {x : Binary64} (within : ofInt? i = .ok x) :
    (ofNat i.natAbs).length ≤ maxDigits := by
  have bits := natAbs_lt_of_ofInt? within
  have digits : (2 : Nat) ^ 1024 ≤ 10 ^ maxDigits :=
    Nat.le_trans (pow_le_pow_left₀ (by decide) (by decide) 1024)
      (pow_le_pow_right₀ (by decide) (by decide))
  exact (length_ofNat_le (by decide)).mpr (Nat.lt_of_lt_of_le bits digits)

theorem length_ofNat_of_isFinite {i : Int} (finite : (ofInt i).isFinite = true) :
    (ofNat i.natAbs).length ≤ maxDigits :=
  length_ofNat_of_ofInt? (unlessInfinite_of_isFinite finite .realOfLargeInteger)

end ClusterPrep.Binary64
