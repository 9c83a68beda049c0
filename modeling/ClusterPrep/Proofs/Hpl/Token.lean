import ClusterPrep.Hpl.Token
import ClusterPrep.Proofs.Number.ReadBack
import ClusterPrep.Value.Printer

set_option autoImplicit false

/-
  Words of an HPL.dat file read as the values they were written for. The two forms of a number
  exclude each other, so that a whole number stays whole and a real stays a real.
-/
namespace ClusterPrep.Hpl

open Numeral

/-- The digits in front are all digits up to a character that stops them. -/
theorem leadingDigits_append {s rest : Text} (digits : IsDigits s) (stops : Stops rest) :
    leadingDigits (s ++ rest) = (s, rest) := by
  have outside : ∀ c ∈ rest.head?, Text.isDecimalDigit c = false := by
    intro c first
    rw [Text.isDecimalDigit, (stops c first).1]
    rfl
  obtain ⟨front, back⟩ := Text.span_append digits.decimal outside
  rw [leadingDigits, front, back]

theorem leadingDigits_ofNat (n : Nat) : leadingDigits (ofNat n) = (ofNat n, []) := by
  have all := leadingDigits_append (IsDigits.ofNat n) Stops.nil
  rwa [List.append_nil] at all

/-! ### Whole numbers -/

theorem isIntToken_ofInt (i : Int) : isIntToken (ofInt i) = true := by
  simp [isIntToken, sign_ofInt, leadingDigits_ofNat, ofNat_ne_nil]

theorem tokenValue_ofInt (i : Int) (short : (ofNat i.natAbs).length ≤ maxDigits) :
    tokenValue (ofInt i) = .ok (.int i) := by
  rw [tokenValue, if_pos (isIntToken_ofInt i), readInt_ofInt i short]
  rfl

/-- A count is read back from its digits. -/
theorem countValue_ofNat (n : Nat) (short : (ofNat n).length ≤ maxDigits) :
    countValue (ofNat n) = .ok n := by
  have whole : ofInt n = ofNat n := by
    rw [ofInt, if_neg (by omega), Int.natAbs_natCast]
  have positive : sign (ofNat n) = (false, ofNat n) := by
    have signs := sign_ofInt n
    rwa [whole, Int.natAbs_natCast, decide_eq_false (by omega)] at signs
  have readBack : readInt (ofNat n) = .ok (n : Int) := by
    rw [← whole]
    exact readInt_ofInt n short
  simp [countValue, positive, leadingDigits_ofNat, ofNat_ne_nil, readBack, bind, Except.bind,
    pure, Except.pure]

theorem countValue_ofNat_eq_ok_iff {n m : Nat} :
    countValue (ofNat n) = .ok m ↔ m = n ∧ (ofNat n).length ≤ maxDigits := by
  by_cases short : (ofNat n).length ≤ maxDigits
  · rw [countValue_ofNat n short]
    simp only [Except.ok.injEq, short, and_true]
    exact eq_comm
  · have long := readInt_ofNat_of_long (Nat.lt_of_not_le short)
    have positive : sign (ofNat n) = (false, ofNat n) := by
      have signs := sign_ofInt n
      rwa [ofInt, if_neg (by omega), Int.natAbs_natCast, decide_eq_false (by omega)] at signs
    simp [countValue, positive, leadingDigits_ofNat, ofNat_ne_nil, long, short, bind, Except.bind]

/-- A count that was read is not too long to be written. -/
theorem length_ofNat_of_countValue {w : Text} {n : Nat} (read : countValue w = .ok n) :
    (ofNat n).length ≤ maxDigits := by
  have zero : (ofNat 0).length ≤ maxDigits := by decide
  rw [countValue] at read
  dsimp only at read
  split at read
  · cases read
    exact zero
  · cases counted : readInt (leadingDigits (sign w).2).1 with
    | error e =>
        rw [counted] at read
        cases read
    | ok i =>
        have short := length_ofNat_of_readInt counted
        rw [counted] at read
        have same := Except.ok.inj read
        split at same
        · rw [← same]
          exact zero
        · rw [length_ofNat_le (by decide)] at short ⊢
          exact Nat.lt_of_le_of_lt (by omega) short

/-! ### Reals -/

open Binary64 (signed exponentText exponentDigits Pieces)

theorem isExponentToken_exponentText (e : Int) : isExponentToken (exponentText e) = true := by
  have run := leadingDigits_append (Binary64.isDigits_exponentDigits e) Stops.nil
  rw [List.append_nil] at run
  have positive : sign ('+' :: exponentDigits e) = (false, exponentDigits e) := rfl
  have negative : sign ('-' :: exponentDigits e) = (true, exponentDigits e) := rfl
  have some := Binary64.exponentDigits_ne_nil e
  rw [Binary64.exponentText_eq]
  split <;> simp [isExponentToken, isIntToken, positive, negative, run, some]

theorem isExponentToken_powerText (p : Pieces) : isExponentToken p.powerText = true := by
  unfold Pieces.powerText
  cases p.power with
  | none => rfl
  | some e => exact isExponentToken_exponentText e

section

variable {p : Pieces} (real : p.IsReal) (neg : Bool)
include real

theorem leadingDigits_signed :
    leadingDigits (sign (signed neg p.text)).2 = (p.whole, p.partText ++ p.powerText) := by
  rw [Pieces.sign_signed real]
  exact leadingDigits_append real.whole p.stops_tail

/-- What is shown of a real tells it from a whole number. -/
theorem isIntToken_signed : isIntToken (signed neg p.text) = false := by
  simp only [isIntToken, leadingDigits_signed real neg, Bool.and_eq_false_imp]
  intro whole
  simpa using Pieces.tail_ne_nil real

theorem isRealToken_signed : isRealToken (signed neg p.text) = true := by
  have some := real.whole_ne_nil
  have digits := real.part
  simp only [isRealToken, leadingDigits_signed real neg]
  unfold Pieces.partText
  cases present : p.part with
  | some s =>
      rw [present, Option.getD_some] at digits
      have run := leadingDigits_append digits p.stops_powerText
      simp [run, some, isExponentToken_powerText]
  | none =>
      unfold Pieces.powerText
      cases p.power with
      | none => simp [some, isExponentToken]
      | some e =>
          have power := isExponentToken_exponentText e
          rw [Binary64.exponentText_eq] at power
          simp [some, power, Binary64.exponentText_eq]

end

section

variable {x : Binary64} (finite : x.isFinite = true)
include finite

theorem isWord_text : Text.IsWord x.text := by
  obtain ⟨d, laidOut, -⟩ := Binary64.text_eq_layout finite
  rw [laidOut, Binary64.text_realLayout]
  exact Pieces.isWord_signed (Binary64.isReal_piecesOf _) _

theorem tokenValue_text : tokenValue x.text = .ok (.real x) := by
  obtain ⟨d, laidOut, -⟩ := Binary64.text_eq_layout finite
  have readBack := Binary64.readReal_text finite
  rw [laidOut, Binary64.text_realLayout] at readBack ⊢
  have real := Binary64.isReal_piecesOf d.trim
  rw [tokenValue, isIntToken_signed real, isRealToken_signed real, readBack]
  rfl

end

/-! ### Numbers that are read -/

/-- A real begins with a digit or a point, after its sign. -/
theorem head_of_isRealToken {s : Text} (real : isRealToken s = true) :
    ∃ c rest, (sign s).2 = c :: rest ∧ (Text.isDecimalDigit c = true ∨ c = '.') := by
  rw [isRealToken] at real
  cases body : (sign s).2 with
  | nil =>
      rw [body] at real
      cases real
  | cons c rest =>
      refine ⟨c, rest, rfl, ?_⟩
      by_cases digit : Text.isDecimalDigit c = true
      · exact Or.inl digit
      · right
        rw [body] at real
        simp only [leadingDigits, List.takeWhile_cons_of_neg digit,
          List.dropWhile_cons_of_neg digit] at real
        split at real
        · rename_i same
          exact (List.cons.inj same).1
        · cases real

theorem toLower_ne {c : CodePoint} (front : Text.isDecimalDigit c = true ∨ c = '.') :
    c.toLower ≠ 'n' := by
  rcases front with digit | rfl
  · intro same
    cases c with
    | half n => cases same
    | char c =>
        have lower : c.toLower = 'n' := CodePoint.char.inj same
        by_cases capital : 'A' ≤ c ∧ c ≤ 'Z'
        · have above : 65 ≤ c.toNat := capital.1
          have below : c.toNat ≤ 90 := capital.2
          have ascii : (CodePoint.char c).toNat < 128 := Nat.lt_of_le_of_lt below (by decide)
          have other : ¬ (48 ≤ (CodePoint.char c).toNat ∧ (CodePoint.char c).toNat ≤ 57) := by
            rintro ⟨-, most⟩
            have most : c.toNat ≤ 57 := most
            omega
          rw [Text.isDecimalDigit, Text.digitValue?, if_pos ascii, if_neg other] at digit
          cases digit
        · have kept : c.toLower = c := dif_neg capital
          rw [kept] at lower
          subst lower
          revert digit
          decide
  · decide

/-- No word with the form of a real is read as what is not a number. -/
theorem readReal_ne_nan {w : Text} (word : Text.IsWord w) (real : isRealToken w = true) :
    readReal w ≠ .ok .nan := by
  obtain ⟨c, rest, body, front⟩ := head_of_isRealToken real
  have bare : Text.trimWhile isMargin w = w :=
    Text.trimWhile_of_forall fun c member => isMargin_of_not_isBlank (word.2 c member)
  have name : (c :: rest).map CodePoint.toLower ≠ Text.ofString "nan" := fun same =>
    toLower_ne front (List.cons.inj same).1
  rw [readReal, bare]
  rcases signed : sign w with ⟨neg, s⟩
  rw [signed] at body
  dsimp only at body ⊢
  subst body
  rw [if_neg name]
  split
  · simp
  · cases found : unsignedReal neg (c :: rest) with
    | none => simp
    | some x =>
        intro same
        have nan : x = .nan := Except.ok.inj same
        simp only [unsignedReal, Option.bind_eq_some_iff] at found
        obtain ⟨_, _, _, _, found⟩ := found
        split at found
        · cases found
        · obtain ⟨e, _, value⟩ := Option.map_eq_some_iff.mp found
          rw [nan] at value
          exact Binary64.ofDecimal_ne_nan _ _ _ value

end ClusterPrep.Hpl
