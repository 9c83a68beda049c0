import ClusterPrep.Proofs.Hpl.Reread
import ClusterPrep.Quantity.Count

set_option autoImplicit false

/-
  Numbers that are typed in. The word of a number is read as that number, whole numbers and reals
  being told apart, also where a real has no numeral. As no comma is in such a word, a list of
  numbers is read from its words with spaces between them.
-/
namespace ClusterPrep

namespace Binary64

open Numeral

/-- The numeral of a real goes on after its first digits, so that it is no whole number. -/
theorem readInt_text_ne (x : Binary64) (i : Int) : readInt x.text ≠ .ok i := by
  intro read
  cases x with
  | nan => cases read
  | inf neg => cases neg <;> cases read
  | finite neg m p normal =>
      obtain ⟨d, laidOut, -⟩ := text_eq_layout (x := .finite neg m p normal) rfl
      rw [laidOut, text_realLayout] at read
      generalize (finite neg m p normal).isNegative = sign at read
      have real := isReal_piecesOf d.trim
      have bare : Text.trimWhile isMargin (signed sign (piecesOf d.trim).text) = _ :=
        Text.trimWhile_of_forall fun c member =>
          isMargin_of_not_isBlank ((Pieces.isWord_signed real sign).2 c member)
      have run := digitRun_append real.whole (piecesOf d.trim).stops_tail false
        (Or.inr real.whole_ne_nil)
      rw [readInt, bare, Pieces.sign_signed real] at read
      simp only [Pieces.text, run] at read
      split at read
      · cases read
      · rw [if_pos (Pieces.tail_ne_nil real)] at read
        cases read

/-- Every real is read from its text, also one without a numeral. -/
theorem readReal_text_eq (x : Binary64) : readReal x.text = .ok x := by
  cases x with
  | nan => rfl
  | inf neg => cases neg <;> rfl
  | finite neg m p normal => exact readReal_text rfl

theorem comma_not_mem_text (x : Binary64) : .char ',' ∉ x.text := by
  cases x with
  | nan => decide
  | inf neg => cases neg <;> decide
  | finite neg m p normal =>
      obtain ⟨d, laidOut, -⟩ := text_eq_layout (x := .finite neg m p normal) rfl
      rw [laidOut, text_realLayout]
      intro member
      exact (Pieces.numeric_signed (isReal_piecesOf _) _ _ member).ne_comma rfl

end Binary64

namespace Count

open Hpl Numeral Text

section

variable {v : Value} (figure : IsFigure v)
include figure

/-- A number is read from its word. -/
theorem readNumber_wordOf : ∃ n, readNumber (wordOf v) = .ok n ∧ Value.ofNumber n = v := by
  cases v with
  | int i =>
      refine ⟨.int i, ?_, rfl⟩
      rw [readNumber, wordOf, readInt_ofInt i figure]
      rfl
  | real x =>
      refine ⟨.real x, ?_, rfl⟩
      rw [readNumber, wordOf]
      cases read : readInt x.text with
      | ok i => exact absurd read (Binary64.readInt_text_ne x i)
      | error e =>
          dsimp only
          rw [Binary64.readReal_text_eq x]
          rfl
  | _ => exact absurd figure id

theorem comma_not_mem_wordOf : .char ',' ∉ wordOf v := by
  cases v with
  | int i => exact fun member => (numeric_ofInt i _ member).ne_comma rfl
  | real x => exact Binary64.comma_not_mem_text x
  | _ => exact absurd figure id

end

/-- The words of a text without commas are those between its blanks. -/
theorem listWords_of_not_mem {s : Text} (plain : .char ',' ∉ s) : listWords s = words s := by
  have kept : (s.map fun c : CodePoint => if c = ',' then (' ' : CodePoint) else c) = s := by
    refine (List.map_congr_left fun c member => ?_).trans (List.map_id s)
    have apart : c ≠ ',' := by
      rintro rfl
      exact plain member
    exact if_neg apart
  rw [listWords, kept]

/-- Numbers are read one after the other. -/
theorem readNumbers_wordOf {vs : List Value} (figures : ∀ v ∈ vs, IsFigure v) :
    ∃ ns, readNumbers (vs.map wordOf) = .ok ns ∧ ns.map Value.ofNumber = vs := by
  induction vs with
  | nil => exact ⟨[], rfl, rfl⟩
  | cons v vs ih =>
      obtain ⟨n, first, same⟩ := readNumber_wordOf (figures v (by simp))
      obtain ⟨ns, rest, all⟩ := ih fun w member => figures w (List.mem_cons_of_mem v member)
      refine ⟨n :: ns, ?_, by rw [List.map_cons, same, all]⟩
      rw [List.map_cons, readNumbers, first, rest]
      rfl

/-- **Numbers that are shown are read again.** A list of numbers, one at least, is read from the
    text that shows it. -/
theorem readList_unwords {vs : List Value} (nonempty : vs ≠ []) (figures : ∀ v ∈ vs, IsFigure v) :
    ∃ ns, readList (strip (unwords (vs.map wordOf))) = .ok ns ∧ ns.map Value.ofNumber = vs := by
  have plain : .char ',' ∉ strip (unwords (vs.map wordOf)) := by
    intro member
    refine not_mem_unwords (by decide) ?_ (mem_of_mem_trimWhile member)
    intro w inside
    obtain ⟨v, held, rfl⟩ := List.mem_map.mp inside
    exact comma_not_mem_wordOf (figures v held)
  have separate : ∀ w ∈ vs.map wordOf, IsWord w := by
    intro w inside
    obtain ⟨v, held, rfl⟩ := List.mem_map.mp inside
    exact isWord_wordOf (figures v held).hasWord
  obtain ⟨ns, read, all⟩ := readNumbers_wordOf figures
  refine ⟨ns, ?_, all⟩
  rw [readList, listWords_of_not_mem plain, words_strip, words_unwords separate]
  cases vs with
  | nil => exact absurd rfl nonempty
  | cons v vs => exact read

/-! ### Counts of processes -/

/-- A text that is no number of processes is a bad value. -/
theorem kind_of_readProcesses {s : Text} {e : Failure} (refused : readProcesses s = .error e) :
    e.kind = .badValue := by
  rw [readProcesses] at refused
  split at refused
  · cases refused
    rfl
  split at refused
  · cases refused
    rfl
  cases read : readInt (strip s) with
  | error cause =>
      simp only [read, bind, Except.bind] at refused
      cases refused
      exact kind_of_readInt read
  | ok n =>
      simp only [read, bind, Except.bind] at refused
      split at refused
      · cases refused
        rfl
      · cases refused

theorem one_le_of_readProcesses {s : Text} {n : Int} (read : readProcesses s = .ok n) : 1 ≤ n := by
  rw [readProcesses] at read
  split at read
  · cases read
  split at read
  · cases read
  obtain ⟨m, -, read⟩ := Attempt.exists_of_bind read
  split at read
  · cases read
  · rename_i enough
    cases read
    exact Int.not_lt.mp enough

/-- A number of processes that is read is not too long to be written. -/
theorem length_of_readProcesses {s : Text} {n : Int} (read : readProcesses s = .ok n) :
    (ofNat n.natAbs).length ≤ maxDigits := by
  rw [readProcesses] at read
  split at read
  · cases read
  split at read
  · cases read
  cases found : readInt (strip s) with
  | error cause =>
      simp only [found, bind, Except.bind] at read
      cases read
  | ok m =>
      simp only [found, bind, Except.bind] at read
      split at read
      · cases read
      · cases read
        exact length_ofNat_of_readInt found

end Count

end ClusterPrep
