import ClusterPrep.Proofs.Text.Words
import Mathlib.Data.List.TakeWhile

set_option autoImplicit false

/-
  Lines of texts that are cut short. What is dropped at the right end of a text shortens or removes
  its last lines and leaves all lines before them as they were.
-/
namespace ClusterPrep.Text

/-! ### Pieces -/

theorem not_mem_of_mem_pieces {sep : CodePoint} {s p : Text} (member : p ∈ pieces sep s) :
    sep ∉ p := by
  induction s generalizing p with
  | nil =>
      rw [List.mem_singleton.mp member]
      exact List.not_mem_nil
  | cons c s ih =>
      rw [pieces] at member
      split at member
      · rcases List.mem_cons.mp member with rfl | member
        · exact List.not_mem_nil
        · exact ih member
      · rename_i apart
        cases found : pieces sep s with
        | nil => exact absurd found (pieces_ne_nil sep s)
        | cons q qs =>
            rw [found] at member ih
            rcases List.mem_cons.mp member with rfl | member
            · have rest : sep ∉ q := ih (by simp)
              simp [Ne.symm apart, rest]
            · exact ih (List.mem_cons_of_mem q member)

/-- Nothing is in a piece that was not in the text. -/
theorem mem_of_mem_pieces {sep c : CodePoint} {s p : Text} (member : p ∈ pieces sep s)
    (inside : c ∈ p) : c ∈ s := by
  induction s generalizing p with
  | nil =>
      rw [List.mem_singleton.mp member] at inside
      exact inside
  | cons d s ih =>
      rw [pieces] at member
      split at member
      · rcases List.mem_cons.mp member with rfl | member
        · cases inside
        · exact List.mem_cons_of_mem d (ih member inside)
      · cases found : pieces sep s with
        | nil => exact absurd found (pieces_ne_nil sep s)
        | cons q qs =>
            rw [found] at member ih
            rcases List.mem_cons.mp member with rfl | member
            · rcases List.mem_cons.mp inside with rfl | inside
              · exact List.mem_cons_self
              · exact List.mem_cons_of_mem d (ih List.mem_cons_self inside)
            · exact List.mem_cons_of_mem d (ih (List.mem_cons_of_mem q member) inside)

theorem cut_of_not_mem {sep : CodePoint} {s : Text} (outside : sep ∉ s) :
    cut sep s = (s, none) := by
  induction s with
  | nil => rfl
  | cons c s ih =>
      have apart : c ≠ sep := fun same => outside (by simp [same])
      have rest := ih fun member => outside (List.mem_cons_of_mem c member)
      rw [cut, if_neg apart, rest]

theorem mem_joinWith_of_mem {sep p : Text} {c : CodePoint} {ps : List Text} (member : p ∈ ps)
    (inside : c ∈ p) : c ∈ joinWith sep ps := by
  induction ps with
  | nil => cases member
  | cons q ps ih =>
      cases ps with
      | nil =>
          rw [List.mem_singleton.mp member] at inside
          exact inside
      | cons r ps =>
          rw [joinWith, List.mem_append, List.mem_append]
          rcases List.mem_cons.mp member with rfl | member
          · exact Or.inl (Or.inl inside)
          · exact Or.inr (ih member)

/-- What is joined brings in nothing but what is put between. -/
theorem mem_of_mem_joinWith {sep : Text} {c : CodePoint} {ps : List Text}
    (member : c ∈ joinWith sep ps) : c ∈ sep ∨ ∃ p ∈ ps, c ∈ p := by
  induction ps with
  | nil => cases member
  | cons q ps ih =>
      cases ps with
      | nil => exact Or.inr ⟨q, List.mem_cons_self, member⟩
      | cons r ps =>
          rw [joinWith, List.mem_append, List.mem_append] at member
          rcases member with (member | member) | member
          · exact Or.inr ⟨q, List.mem_cons_self, member⟩
          · exact Or.inl member
          · refine (ih member).imp_right ?_
            rintro ⟨p, listed, inside⟩
            exact ⟨p, List.mem_cons_of_mem q listed, inside⟩

theorem append_joinWith_cons (sep s p : Text) (ps : List Text) :
    s ++ joinWith sep (p :: ps) = joinWith sep ((s ++ p) :: ps) := by
  cases ps with
  | nil => rfl
  | cons q ps => simp only [joinWith, List.append_assoc]

/-! ### Right ends -/

theorem dropRightWhile_prefix (p : CodePoint → Bool) (s : Text) : dropRightWhile p s <+: s :=
  List.rdropWhile_prefix p s

theorem dropRightWhile_append_of_forall {p : CodePoint → Bool} (s : Text) {t : Text}
    (all : ∀ c ∈ t, p c = true) : dropRightWhile p (s ++ t) = dropRightWhile p s := by
  have dropped : ∀ c ∈ t.reverse, p c = true := fun c member => all c (List.mem_reverse.mp member)
  rw [dropRightWhile, List.reverse_append, List.dropWhile_append_of_pos dropped, dropRightWhile]

/-- What is dropped at the right end does not reach beyond a character that stays. -/
theorem dropRightWhile_append_of_exists {p : CodePoint → Bool} (s : Text) {t : Text}
    (stays : ∃ c ∈ t, p c = false) : dropRightWhile p (s ++ t) = s ++ dropRightWhile p t := by
  have left : t.reverse.dropWhile p ≠ [] := by
    intro dropped
    obtain ⟨c, member, stays⟩ := stays
    have gone := List.dropWhile_eq_nil_iff.mp dropped c (List.mem_reverse.mpr member)
    rw [stays] at gone
    cases gone
  have filled : ¬ (t.reverse.dropWhile p).isEmpty = true := by simpa using left
  rw [dropRightWhile, List.reverse_append, List.dropWhile_append, if_neg filled,
    List.reverse_append, List.reverse_reverse, dropRightWhile]

/-- Two texts in each of which something stays are trimmed at their outer ends. -/
theorem trimWhile_append_of_exists {p : CodePoint → Bool} {s t : Text}
    (front : ∃ c ∈ s, p c = false) (back : ∃ c ∈ t, p c = false) :
    trimWhile p (s ++ t) = s.dropWhile p ++ dropRightWhile p t := by
  have left : ¬ (s.dropWhile p).isEmpty = true := by
    obtain ⟨c, member, stays⟩ := front
    rw [List.isEmpty_iff, List.dropWhile_eq_nil_iff]
    intro all
    rw [all c member] at stays
    cases stays
  rw [trimWhile, List.dropWhile_append, if_neg left, dropRightWhile_append_of_exists _ back]

theorem strip_eq_dropRightWhile {c : CodePoint} (clear : isBlank c = false) (s : Text) :
    strip (c :: s) = dropRightWhile isBlank (c :: s) := by
  rw [strip, trimWhile, List.dropWhile_cons_of_neg (by simp [clear])]

/-- The lines of which the last one has no blanks at its end any more. -/
def trimLast : List Text → List Text
  | [] => []
  | [l] => [dropRightWhile isBlank l]
  | l :: m :: ls => l :: trimLast (m :: ls)

theorem trimLast_concat (ls : List Text) (l : Text) :
    trimLast (ls ++ [l]) = ls ++ [dropRightWhile isBlank l] := by
  induction ls with
  | nil => rfl
  | cons m ls ih =>
      cases ls with
      | nil => rfl
      | cons n ls => exact congrArg (m :: ·) ih

/-! ### Lines of a beginning -/

/-- The lines of a beginning of a text are those of the text up to one that may be cut short. -/
theorem lines_of_begins {s t : Text} (begins : s <+: t) :
    ∃ front l m rest, lines s = front ++ [l] ∧ lines t = front ++ m :: rest ∧ l <+: m := by
  induction s generalizing t with
  | nil =>
      cases found : lines t with
      | nil => exact absurd found (pieces_ne_nil _ t)
      | cons m rest => exact ⟨[], [], m, rest, rfl, rfl, List.nil_prefix⟩
  | cons c s ih =>
      obtain ⟨r, rfl⟩ := begins
      obtain ⟨front, l, m, rest, short, long, shorter⟩ := ih (List.prefix_append s r)
      rw [lines] at short long
      by_cases ends : c = '\n'
      · refine ⟨[] :: front, l, m, rest, ?_, ?_, shorter⟩
        · rw [lines, pieces, if_pos ends, short, List.cons_append]
        · rw [lines, List.cons_append, pieces, if_pos ends, long, List.cons_append]
      · cases front with
        | nil =>
            refine ⟨[], c :: l, c :: m, rest, ?_, ?_, (List.prefix_cons_inj c).mpr shorter⟩
            · rw [lines, pieces, if_neg ends, short]
              rfl
            · rw [lines, List.cons_append, pieces, if_neg ends, long]
              rfl
        | cons f front =>
            refine ⟨(c :: f) :: front, l, m, rest, ?_, ?_, shorter⟩
            · rw [lines, pieces, if_neg ends, short]
              rfl
            · rw [lines, List.cons_append, pieces, if_neg ends, long]
              rfl

/-- Every line of a beginning of a text begins a line of the text. -/
theorem exists_line_of_begins {s t l : Text} (begins : s <+: t) (member : l ∈ lines s) :
    ∃ m ∈ lines t, l <+: m := by
  obtain ⟨front, k, m, rest, short, long, shorter⟩ := lines_of_begins begins
  rw [short] at member
  rw [long]
  rcases List.mem_append.mp member with member | member
  · exact ⟨l, List.mem_append_left _ member, List.prefix_rfl⟩
  · rw [List.mem_singleton.mp member]
    exact ⟨m, by simp, shorter⟩

end ClusterPrep.Text
