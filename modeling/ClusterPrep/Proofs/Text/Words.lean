import ClusterPrep.Text.Search
import Mathlib.Data.List.DropRight

set_option autoImplicit false

/-
  Words and lines of composed texts. A blank separates words wherever it stands, so that the words
  of a text do not depend on how much blank space is around them, and lines without line feeds are
  read back as they were put together.
-/
namespace ClusterPrep.Text

/-- A text that blanks cannot divide: one character at least, and none of them blank. -/
def IsWord (w : Text) : Prop := w ≠ [] ∧ ∀ c ∈ w, isBlank c = false

theorem isWord_cons (c : CodePoint) (w : Text) :
    IsWord (c :: w) ↔ isBlank c = false ∧ ∀ d ∈ w, isBlank d = false := by
  simp [IsWord]

/-- A sign before a word is part of the word. -/
theorem IsWord.cons {w : Text} (word : IsWord w) {c : CodePoint} (clear : isBlank c = false) :
    IsWord (c :: w) :=
  (isWord_cons c w).mpr ⟨clear, word.2⟩

theorem IsWord.append {v w : Text} (first : IsWord v) (second : ∀ c ∈ w, isBlank c = false) :
    IsWord (v ++ w) := by
  refine ⟨by simp [first.1], ?_⟩
  intro c member
  rcases List.mem_append.mp member with member | member
  · exact first.2 c member
  · exact second c member

/-- No line feed is within a word, since a line feed is blank. -/
theorem IsWord.newline_not_mem {w : Text} (word : IsWord w) : .char '\n' ∉ w := by
  intro member
  have clear := word.2 _ member
  revert clear
  decide

/-- A run of characters of one sort ends before the first character of another sort. -/
theorem span_append {p : CodePoint → Bool} {s rest : Text} (inside : ∀ c ∈ s, p c = true)
    (stops : ∀ c ∈ rest.head?, p c = false) :
    (s ++ rest).takeWhile p = s ∧ (s ++ rest).dropWhile p = rest := by
  rw [List.takeWhile_append_of_pos inside, List.dropWhile_append_of_pos inside]
  cases rest with
  | nil => exact ⟨List.append_nil s, rfl⟩
  | cons c rest =>
      have stop := stops c rfl
      simp [stop]

/-! ### Words -/

@[simp] theorem words_nil : words [] = [] := rfl

theorem words_cons_of_blank {c : CodePoint} (blank : isBlank c = true) (s : Text) :
    words (c :: s) = words s := by
  rw [words.eq_def]
  exact if_pos blank

theorem words_singleton {c : CodePoint} (clear : isBlank c = false) : words [c] = [[c]] := by
  rw [words.eq_def]
  simp only [clear, Bool.false_eq_true, ↓reduceIte]

theorem words_cons_before_blank {c d : CodePoint} (clear : isBlank c = false)
    (blank : isBlank d = true) (s : Text) : words (c :: d :: s) = [c] :: words (d :: s) := by
  rw [words.eq_def]
  simp only [clear, blank, Bool.false_eq_true, ↓reduceIte]

/-- A character before a word becomes the first of that word. -/
theorem words_cons_of_eq_cons {c d : CodePoint} {s w : Text} {ws : List Text}
    (clear : isBlank c = false) (next : isBlank d = false) (found : words (d :: s) = w :: ws) :
    words (c :: d :: s) = (c :: w) :: ws := by
  rw [words.eq_def]
  simp only [clear, next, found, Bool.false_eq_true, ↓reduceIte]

theorem words_cons_ne_nil {c : CodePoint} (clear : isBlank c = false) (s : Text) :
    words (c :: s) ≠ [] := by
  rw [words.eq_def]
  simp only [clear, Bool.false_eq_true, ↓reduceIte]
  split
  · simp
  · split
    · simp
    · split <;> simp

/-- **Words end at a blank.** Everything about the words of composed texts follows from this. -/
theorem words_append_of_blank {c : CodePoint} (blank : isBlank c = true) (s t : Text) :
    words (s ++ c :: t) = words s ++ words t := by
  induction s with
  | nil => exact words_cons_of_blank blank t
  | cons a s ih =>
      by_cases first : isBlank a = true
      · rw [List.cons_append, words_cons_of_blank first, words_cons_of_blank first, ih]
      · have first : isBlank a = false := by simpa using first
        cases s with
        | nil =>
            rw [List.cons_append, List.nil_append, words_cons_before_blank first blank,
              words_cons_of_blank blank, words_singleton first, List.singleton_append]
        | cons b s =>
            simp only [List.cons_append] at ih ⊢
            by_cases second : isBlank b = true
            · rw [words_cons_before_blank first second, words_cons_before_blank first second, ih,
                List.cons_append]
            · have second : isBlank b = false := by simpa using second
              cases found : words (b :: s) with
              | nil => exact absurd found (words_cons_ne_nil second s)
              | cons w ws =>
                  rw [found] at ih
                  rw [words_cons_of_eq_cons first second ih,
                    words_cons_of_eq_cons first second found]
                  rfl

theorem words_eq_singleton {w : Text} (word : IsWord w) : words w = [w] := by
  induction w with
  | nil => exact absurd rfl word.1
  | cons c w ih =>
      obtain ⟨clear, rest⟩ := (isWord_cons c w).mp word
      cases w with
      | nil => exact words_singleton clear
      | cons d w => exact words_cons_of_eq_cons clear (rest d (by simp)) (ih ⟨by simp, rest⟩)

theorem words_copies_append (n : Nat) (s : Text) : words (copies n ' ' ++ s) = words s := by
  induction n with
  | zero => rfl
  | succ n ih =>
      rw [copies, List.replicate_succ, List.cons_append, words_cons_of_blank (by decide)]
      exact ih

/-- Characters before a word become its first ones. -/
theorem words_append_of_clear {p : Text} (clear : ∀ c ∈ p, isBlank c = false) {d : CodePoint}
    {s w : Text} {ws : List Text} (next : isBlank d = false) (found : words (d :: s) = w :: ws) :
    words (p ++ d :: s) = (p ++ w) :: ws := by
  induction p with
  | nil => exact found
  | cons c p ih =>
      obtain ⟨first, rest⟩ := List.forall_mem_cons.mp clear
      cases p with
      | nil => exact words_cons_of_eq_cons first next found
      | cons e p => exact words_cons_of_eq_cons first (rest e List.mem_cons_self) (ih rest)

/-- The words of joined texts are the words of each of them. -/
theorem words_unwords_eq_flatMap (ts : List Text) : words (unwords ts) = ts.flatMap words := by
  induction ts with
  | nil => rfl
  | cons t ts ih =>
      cases ts with
      | nil => simp [unwords, joinWith]
      | cons u ts =>
          have joined : unwords (t :: u :: ts) = t ++ .char ' ' :: unwords (u :: ts) := by
            simp [unwords, joinWith]
          rw [joined, words_append_of_blank (by decide), ih]
          rfl

/-- Joining words by spaces loses none of them and makes no other. -/
theorem words_unwords {ws : List Text} (separate : ∀ w ∈ ws, IsWord w) :
    words (unwords ws) = ws := by
  have single : ws.flatMap words = ws.flatMap fun w => [w] :=
    List.flatMap_congr fun w member => words_eq_singleton (separate w member)
  rw [words_unwords_eq_flatMap, single, List.flatMap_singleton']

/-- Every word of a text is a word. -/
theorem isWord_of_mem_words {s w : Text} (member : w ∈ words s) : IsWord w := by
  induction s generalizing w with
  | nil => cases member
  | cons c s ih =>
      by_cases blank : isBlank c = true
      · rw [words_cons_of_blank blank] at member
        exact ih member
      · have clear : isBlank c = false := by simpa using blank
        have single : IsWord [c] := (isWord_cons c []).mpr ⟨clear, by simp⟩
        cases s with
        | nil =>
            rw [words_singleton clear] at member
            rwa [List.mem_singleton.mp member]
        | cons d s =>
            by_cases next : isBlank d = true
            · rw [words_cons_before_blank clear next] at member
              rcases List.mem_cons.mp member with rfl | member
              · exact single
              · exact ih member
            · have next : isBlank d = false := by simpa using next
              cases found : words (d :: s) with
              | nil => exact absurd found (words_cons_ne_nil next s)
              | cons v vs =>
                  rw [words_cons_of_eq_cons clear next found] at member
                  rcases List.mem_cons.mp member with rfl | member
                  · exact (ih (by rw [found]; simp)).cons clear
                  · exact ih (by rw [found]; simp [member])

/-! ### Stripped texts -/

section

variable {f : CodePoint → CodePoint} (kept : ∀ c, isBlank c = true → isBlank (f c) = true)
include kept

/-- Where blanks stay blank, other characters may be replaced before the words are taken or after
    the blanks at the ends were dropped. -/
theorem words_map_dropWhile_blank (s : Text) :
    words ((s.dropWhile isBlank).map f) = words (s.map f) := by
  induction s with
  | nil => rfl
  | cons c s ih =>
      by_cases blank : isBlank c = true
      · rw [List.dropWhile_cons_of_pos blank, ih, List.map_cons, words_cons_of_blank (kept c blank)]
      · rw [List.dropWhile_cons_of_neg blank]

theorem words_map_dropRightWhile_blank (s : Text) :
    words ((dropRightWhile isBlank s).map f) = words (s.map f) := by
  -- The induction is on the reversed text, from which the blanks are dropped in front.
  have reversed (r : Text) : words ((r.dropWhile isBlank).reverse.map f) =
      words (r.reverse.map f) := by
    induction r with
    | nil => rfl
    | cons c r ih =>
        by_cases blank : isBlank c = true
        · rw [List.dropWhile_cons_of_pos blank, ih, List.reverse_cons, List.map_append,
            List.map_singleton, words_append_of_blank (kept c blank), words_nil, List.append_nil]
        · rw [List.dropWhile_cons_of_neg blank]
  simpa only [dropRightWhile, List.reverse_reverse] using reversed s.reverse

theorem words_map_strip (s : Text) : words ((strip s).map f) = words (s.map f) := by
  rw [strip, trimWhile, words_map_dropRightWhile_blank kept, words_map_dropWhile_blank kept]

end

@[simp] theorem words_strip (s : Text) : words (strip s) = words s := by
  simpa only [List.map_id] using words_map_strip (f := id) (fun _ blank => blank) s

theorem strip_ne_nil {s : Text} (nonempty : words s ≠ []) : strip s ≠ [] := by
  intro empty
  rw [← words_strip, empty] at nonempty
  exact nonempty rfl

/-- What is left of a text without blanks at its ends has a word. -/
theorem words_ne_nil {s : Text} (nonempty : strip s ≠ []) : words s ≠ [] := by
  intro none
  have blank : s.dropWhile isBlank = [] := by
    induction s with
    | nil => rfl
    | cons c s ih =>
        by_cases first : isBlank c = true
        · rw [words_cons_of_blank first] at none
          rw [strip, trimWhile, List.dropWhile_cons_of_pos first] at nonempty
          rw [List.dropWhile_cons_of_pos first, ih nonempty none]
        · exact absurd none (words_cons_ne_nil (by simpa using first) s)
  rw [strip, trimWhile, blank] at nonempty
  exact nonempty rfl

theorem trimWhile_of_forall {p : CodePoint → Bool} {s : Text} (clear : ∀ c ∈ s, p c = false) :
    trimWhile p s = s := by
  have kept (r : Text) (h : ∀ c ∈ r, p c = false) : r.dropWhile p = r := by
    cases r with
    | nil => rfl
    | cons c r => exact List.dropWhile_cons_of_neg (by simp [h c (by simp)])
  rw [trimWhile, dropRightWhile, kept s clear,
    kept s.reverse fun c member => clear c (List.mem_reverse.mp member), List.reverse_reverse]

/-- Nothing is in a trimmed text that was not in the text. -/
theorem mem_of_mem_trimWhile {p : CodePoint → Bool} {s : Text} {c : CodePoint}
    (member : c ∈ trimWhile p s) : c ∈ s := by
  rw [trimWhile, dropRightWhile, List.mem_reverse] at member
  have inside := (List.dropWhile_sublist p).subset member
  exact (List.dropWhile_sublist p).subset (List.mem_reverse.mp inside)

/-- What is in a text but not in the trimmed one is of the characters that are dropped. -/
theorem mem_trimWhile_or {p : CodePoint → Bool} {s : Text} {c : CodePoint} (member : c ∈ s) :
    c ∈ trimWhile p s ∨ p c = true := by
  have dropped {t : Text} (inside : c ∈ t) : c ∈ t.dropWhile p ∨ p c = true := by
    rw [← List.takeWhile_append_dropWhile (p := p) (l := t), List.mem_append] at inside
    exact inside.symm.imp_right List.mem_takeWhile_imp
  rcases dropped member with inside | margin
  · rw [trimWhile, dropRightWhile, List.mem_reverse]
    exact dropped (List.mem_reverse.mpr inside)
  · exact .inr margin

theorem trimWhile_trimWhile (p : CodePoint → Bool) (s : Text) :
    trimWhile p (trimWhile p s) = trimWhile p s := by
  have front : (trimWhile p s).dropWhile p = trimWhile p s := by
    rw [List.dropWhile_eq_self_iff]
    intro nonempty
    have begins : trimWhile p s <+: s.dropWhile p := List.rdropWhile_prefix p (s.dropWhile p)
    rw [begins.getElem nonempty]
    exact List.dropWhile_eq_self_iff.mp (List.dropWhile_idempotent p s) _
  rw [trimWhile, front]
  exact List.rdropWhile_idempotent p (s.dropWhile p)

/-- Words that are joined hold nothing but their own characters and spaces. -/
theorem not_mem_unwords {c : CodePoint} {ws : List Text} (apart : c ≠ ' ')
    (each : ∀ w ∈ ws, c ∉ w) : c ∉ unwords ws := by
  induction ws with
  | nil => simp [unwords, joinWith]
  | cons w ws ih =>
      have head := each w (by simp)
      cases ws with
      | nil => exact head
      | cons v ws =>
          have tail := ih fun u member => each u (List.mem_cons_of_mem w member)
          have joined : unwords (w :: v :: ws) = w ++ [.char ' '] ++ unwords (v :: ws) := rfl
          simp [joined, head, tail, apart]

/-! ### Lines -/

theorem pieces_of_not_mem {sep : CodePoint} {s : Text} (outside : sep ∉ s) :
    pieces sep s = [s] := by
  induction s with
  | nil => rfl
  | cons c s ih =>
      have apart : c ≠ sep := fun same => outside (by simp [same])
      have rest := ih fun member => outside (List.mem_cons_of_mem c member)
      rw [pieces, if_neg apart, rest]

/-- **Pieces end at a separator.** -/
theorem pieces_append (sep : CodePoint) (s t : Text) :
    pieces sep (s ++ sep :: t) = pieces sep s ++ pieces sep t := by
  induction s with
  | nil => simp [pieces]
  | cons c s ih =>
      rw [List.cons_append, pieces, pieces, ih]
      split
      · rfl
      · cases found : pieces sep s with
        | nil => exact absurd found (pieces_ne_nil sep s)
        | cons p ps => rfl

theorem pieces_append_of_not_mem {sep : CodePoint} {s : Text} (outside : sep ∉ s) (t : Text) :
    pieces sep (s ++ sep :: t) = s :: pieces sep t := by
  rw [pieces_append, pieces_of_not_mem outside, List.singleton_append]

/-- Splitting undoes joining when no piece holds the separator. -/
theorem pieces_joinWith {sep : CodePoint} {ps : List Text} (nonempty : ps ≠ [])
    (outside : ∀ p ∈ ps, sep ∉ p) : pieces sep (joinWith [sep] ps) = ps := by
  induction ps with
  | nil => exact absurd rfl nonempty
  | cons p ps ih =>
      have head := outside p (by simp)
      cases ps with
      | nil => exact pieces_of_not_mem head
      | cons q ps =>
          have tail := ih (by simp) fun r member => outside r (List.mem_cons_of_mem p member)
          rw [joinWith, List.append_assoc, List.singleton_append,
            pieces_append_of_not_mem head, tail]

theorem lines_unlines {ls : List Text} (nonempty : ls ≠ []) (outside : ∀ l ∈ ls, .char '\n' ∉ l) :
    lines (unlines ls) = ls :=
  pieces_joinWith nonempty outside

/-! ### What is listed -/

theorem infix_intercalate {sep x : Text} {parts : List Text} (member : x ∈ parts) :
    x <:+: sep.intercalate parts := by
  induction parts with
  | nil => cases member
  | cons part rest ih =>
      cases rest with
      | nil =>
          have alone : sep.intercalate [part] = part := List.intercalate_singleton
          exact (List.mem_singleton.mp member).trans alone.symm ▸ List.infix_refl x
      | cons next rest =>
          rw [List.intercalate_cons_cons]
          rcases List.mem_cons.mp member with rfl | member
          · exact ⟨[], sep ++ sep.intercalate (next :: rest), by simp⟩
          · exact (ih member).trans (List.suffix_append _ _).isInfix

theorem ofString_intercalate (sep : String) (parts : List String) :
    ofString (sep.intercalate parts) = (ofString sep).intercalate (parts.map ofString) := by
  rw [ofString, ofChars, String.toList_intercalate]
  induction parts with
  | nil => rfl
  | cons part rest ih =>
      cases rest with
      | nil => simp [ofString, ofChars]
      | cons next rest =>
          simp only [List.map_cons, List.intercalate_cons_cons, List.map_append] at ih ⊢
          rw [ih]
          rfl

end ClusterPrep.Text
