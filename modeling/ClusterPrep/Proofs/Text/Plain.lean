import ClusterPrep.Proofs.Text.Lines
import ClusterPrep.Text.LetterCase

set_option autoImplicit false

/-
  Texts that stay on one line whatever is done with them: spaces are the only blanks in them. They
  are put together from words, and cutting, joining and capitals keep them so.
-/
namespace ClusterPrep.Text

/-- Spaces are the only blanks of the text. -/
def IsPlain (s : Text) : Prop := ∀ c ∈ s, isBlank c = true → c = ' '

instance (s : Text) : Decidable s.IsPlain :=
  inferInstanceAs (Decidable (∀ c ∈ s, isBlank c = true → c = ' '))

namespace IsPlain

variable {s t : Text}

theorem of_subset (plain : IsPlain s) (inside : ∀ c ∈ t, c ∈ s) : IsPlain t :=
  fun c member => plain c (inside c member)

theorem append (left : IsPlain s) (right : IsPlain t) : IsPlain (s ++ t) := by
  intro c member
  rcases List.mem_append.mp member with member | member
  · exact left c member
  · exact right c member

theorem of_isWord (word : IsWord s) : IsPlain s := by
  intro c member blank
  rw [word.2 c member] at blank
  cases blank

theorem unwords {ws : List Text} (each : ∀ w ∈ ws, IsPlain w) : IsPlain (unwords ws) := by
  intro c member blank
  by_contra apart
  refine not_mem_unwords apart ?_ member
  intro w inside found
  exact apart (each w inside c found blank)

theorem newline_not_mem (plain : IsPlain s) : .char '\n' ∉ s := by
  intro member
  have same := plain _ member (by decide)
  revert same
  decide

end IsPlain

/-! ### Capitals -/

/-- Spans of numbers that hold those of all blanks and of no letter. -/
def blankSpans : List (Nat × Nat) :=
  [(9, 0x20), (0x85, 0xA0), (0x1680, 0x1680), (0x2000, 0x205F), (0x3000, 0x3000)]

theorem pos_of_mem_blankSpans : ∀ span ∈ blankSpans, 0 < span.1 := by decide

theorem exists_span_of_isBlank {c : CodePoint} (blank : isBlank c = true) :
    ∃ span ∈ blankSpans, span.1 ≤ c.toNat ∧ c.toNat ≤ span.2 := by
  simp only [isBlank, Bool.or_eq_true, Bool.and_eq_true, decide_eq_true_eq, beq_iff_eq] at blank
  simp only [blankSpans, List.mem_cons, List.not_mem_nil, or_false, exists_eq_or_imp,
    exists_eq_left]
  omega

theorem toNat_ofNat (n : Nat) : (CodePoint.ofNat n).toNat = n ∨ (CodePoint.ofNat n).toNat = 0 := by
  rw [CodePoint.ofNat]
  split
  · rename_i inside
    exact Or.inl (by simp only [CodePoint.toNat]; omega)
  · rw [CodePoint.toNat, Char.ofNat]
    by_cases valid : n.isValidChar
    · rw [dif_pos valid]
      exact Or.inl rfl
    · rw [dif_neg valid]
      exact Or.inr rfl

/-- A number outside the spans of the blanks is the number of no blank. -/
theorem isBlank_ofNat {n : Nat} (outside : ∀ span ∈ blankSpans, n < span.1 ∨ span.2 < n) :
    isBlank (CodePoint.ofNat n) = false := by
  cases blank : isBlank (CodePoint.ofNat n) with
  | false => rfl
  | true =>
      obtain ⟨span, listed, least, most⟩ := exists_span_of_isBlank blank
      have apart := outside span listed
      have positive := pos_of_mem_blankSpans span listed
      rcases toNat_ofNat n with same | zero
      · omega
      · omega

/-- No range of letters is shifted into a span of blanks. -/
theorem apart_of_mem {r : CaseRange} (member : r ∈ capitals) : ∀ span ∈ blankSpans,
    r.last + r.shift < (span.1 : Int) ∨ (span.2 : Int) < r.first + r.shift := by
  revert r
  decide +kernel

theorem isBlank_shifted {n : Nat} {d : CodePoint} (found : shifted n capitals = some d) :
    isBlank d = false := by
  obtain ⟨r, chosen, rfl⟩ := Option.map_eq_some_iff.mp found
  have member := List.mem_of_find?_eq_some chosen
  have within := List.find?_some chosen
  simp only [Bool.and_eq_true, decide_eq_true_eq] at within
  apply isBlank_ofNat
  intro span listed
  have apart := apart_of_mem member span listed
  have positive := pos_of_mem_blankSpans span listed
  omega

/-- The capital form of a character holds no blank, unless the character is one itself. -/
theorem eq_of_mem_upperChar {c d : CodePoint} (member : d ∈ upperChar c)
    (blank : isBlank d = true) : d = c := by
  rw [upperChar] at member
  split at member
  · rename_i small
    rw [List.mem_singleton.mp member] at blank ⊢
    have ascii : ∀ n < 128, isBlank (CodePoint.ofNat n).toUpper = true →
        (CodePoint.ofNat n).toUpper = CodePoint.ofNat n := by decide
    rw [← CodePoint.ofNat_toNat c] at blank ⊢
    exact ascii c.toNat small blank
  · split at member
    · rename_i codes found
      obtain ⟨n, inside, rfl⟩ := List.mem_map.mp member
      have clear : ∀ entry ∈ longCapitals, ∀ n ∈ entry.2, ∀ span ∈ blankSpans,
          n < span.1 ∨ span.2 < n := by decide +kernel
      obtain ⟨before, after, listed, -⟩ := List.lookup_eq_some_iff.mp found
      have outside := clear (c.toNat, codes) (by rw [listed]; simp) n inside
      rw [isBlank_ofNat outside] at blank
      cases blank
    · rw [List.mem_singleton] at member
      cases found : shifted c.toNat capitals with
      | none =>
          rw [found] at member
          exact member
      | some e =>
          rw [found, Option.getD_some] at member
          rw [member, isBlank_shifted found] at blank
          cases blank

theorem IsPlain.upper {s : Text} (plain : IsPlain s) : IsPlain (upper s) := by
  intro d member blank
  obtain ⟨c, inside, found⟩ := List.mem_flatMap.mp member
  rw [← eq_of_mem_upperChar found blank] at inside
  exact plain d inside blank

end ClusterPrep.Text
