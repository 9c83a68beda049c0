import ClusterPrep.Display.Script
import Mathlib.Algebra.Ring.Nat
import Mathlib.Data.List.TakeWhile

set_option autoImplicit false

/-
  A script with styles shows the script as it is, but for the characters that a terminal would act
  on, and each line that stands out has its own stretch of it in the style of the line. The style is
  that of the whole line, while the places are counted in what is shown.
-/
namespace ClusterPrep.Display

/-! ### Lines that stand out -/

/-- What makes a line stand out, and in which style. Of several reasons the first one counts. -/
inductive Marked (line : Text) : String → Prop
  | unrecognized (ends : Batch.unrecognizedSuffix <:+ line) : Marked line "bold red"
  | option (recognized : ¬ Batch.unrecognizedSuffix <:+ line)
      (begins : Batch.slurmMarker <+: line) : Marked line "bold cyan"
  | comment (recognized : ¬ Batch.unrecognizedSuffix <:+ line)
      (other : ¬ Batch.slurmMarker <+: line)
      (hash : ∃ margin rest, line = margin ++ .char '#' :: rest ∧
        ∀ c ∈ margin, Text.isBlank c = true) : Marked line "dim"

theorem isPrefixOf_dropWhile_iff {line : Text} :
    ("#" : Text).isPrefixOf (line.dropWhile Text.isBlank) = true ↔
      ∃ margin rest, line = margin ++ .char '#' :: rest ∧
        ∀ c ∈ margin, Text.isBlank c = true := by
  rw [List.isPrefixOf_iff_prefix]
  constructor
  · rintro ⟨rest, front⟩
    refine ⟨line.takeWhile Text.isBlank, rest, ?_, fun c member => List.mem_takeWhile_imp member⟩
    have whole := List.takeWhile_append_dropWhile (p := Text.isBlank) (l := line)
    rw [← front] at whole
    exact whole.symm
  · rintro ⟨margin, rest, rfl, blank⟩
    rw [List.dropWhile_append_of_pos blank, List.dropWhile_cons_of_neg (by decide)]
    exact List.prefix_append ("#" : Text) rest

theorem marked_iff {line : Text} {style : String} :
    Marked line style ↔ lineStyle line = style ∧ style ≠ "" := by
  have suffix : Batch.unrecognizedSuffix.isSuffixOf line = true ↔
      Batch.unrecognizedSuffix <:+ line := List.isSuffixOf_iff_suffix
  have marker : Batch.slurmMarker.isPrefixOf line = true ↔ Batch.slurmMarker <+: line :=
    List.isPrefixOf_iff_prefix
  rw [lineStyle]
  simp only [suffix, marker]
  constructor
  · intro marked
    cases marked with
    | unrecognized ends => simp [ends]
    | option recognized begins => simp [recognized, begins]
    | comment recognized other hash =>
        rw [if_neg recognized, if_neg other, if_pos (isPrefixOf_dropWhile_iff.mpr hash)]
        exact ⟨rfl, by decide⟩
  · rintro ⟨rfl, styled⟩
    split
    · rename_i ends
      exact .unrecognized ends
    · rename_i recognized
      split
      · rename_i begins
        exact .option recognized begins
      · rename_i other
        split
        · rename_i hash
          exact .comment recognized other (isPrefixOf_dropWhile_iff.mp hash)
        · rename_i plain
          rw [if_neg recognized, if_neg other, if_neg plain] at styled
          exact absurd rfl styled

/-- In a line that stands out there is a number sign, which is shown. -/
theorem Marked.visible_ne_nil {line : Text} {style : String} (marked : Marked line style) :
    visible line ≠ [] := by
  have sign : .char '#' ∈ line := by
    cases marked with
    | unrecognized ends => exact ends.subset (by decide)
    | option _ begins => exact begins.subset (by decide)
    | comment _ _ hash =>
        obtain ⟨margin, rest, rfl, -⟩ := hash
        simp
  exact List.ne_nil_of_mem (List.mem_filter.mpr ⟨sign, by decide⟩)

/-! ### The stretches of lines -/

/-- Where a line begins in what is shown: after the lines before it and a line feed for each. -/
def startOf (ls : List Text) (i : Nat) : Nat :=
  ((ls.take i).map fun line => (visible line).length + 1).sum

/-- The stretch of a line that begins at `start`, if the line stands out. -/
def lineSpans (start : Nat) (line : Text) : List Span :=
  if lineStyle line = "" then [] else [⟨start, start + (visible line).length, lineStyle line⟩]

/-- The stretches of lines the first of which begins at `start`. -/
def spansFrom (start : Nat) : List Text → List Span
  | [] => []
  | line :: ls => lineSpans start line ++ spansFrom (start + ((visible line).length + 1)) ls

@[simp] theorem startOf_zero (ls : List Text) : startOf ls 0 = 0 := rfl

@[simp] theorem startOf_cons_succ (line : Text) (ls : List Text) (i : Nat) :
    startOf (line :: ls) (i + 1) = (visible line).length + 1 + startOf ls i := rfl

theorem mem_lineSpans {start : Nat} {line : Text} {span : Span} :
    span ∈ lineSpans start line ↔ Marked line span.style ∧ span.start = start ∧
      span.stop = span.start + (visible line).length := by
  obtain ⟨first, last, style⟩ := span
  rw [marked_iff, lineSpans]
  split
  · rename_i plain
    simp [plain, eq_comm (a := "")]
  · rename_i styled
    rw [List.mem_singleton, Span.mk.injEq]
    constructor
    · rintro ⟨rfl, rfl, rfl⟩
      exact ⟨⟨rfl, styled⟩, rfl, rfl⟩
    · rintro ⟨⟨same, -⟩, place, length⟩
      exact ⟨place, place ▸ length, same.symm⟩

/-- The stretches are those of the lines that stand out. -/
theorem mem_spansFrom {start : Nat} {ls : List Text} {span : Span} :
    span ∈ spansFrom start ls ↔ ∃ i line, ls[i]? = some line ∧ Marked line span.style ∧
      span.start = start + startOf ls i ∧ span.stop = span.start + (visible line).length := by
  induction ls generalizing start with
  | nil => simp [spansFrom]
  | cons line ls ih =>
      rw [spansFrom, List.mem_append, mem_lineSpans, ih]
      constructor
      · rintro (⟨marked, first, last⟩ | ⟨i, next, listed, marked, first, last⟩)
        · exact ⟨0, line, rfl, marked, first, last⟩
        · refine ⟨i + 1, next, listed, marked, ?_, last⟩
          rw [first, startOf_cons_succ, Nat.add_assoc]
      · rintro ⟨i, next, listed, marked, first, last⟩
        cases i with
        | zero =>
            cases Option.some.inj listed
            exact .inl ⟨marked, first, last⟩
        | succ i =>
            refine .inr ⟨i, next, listed, marked, ?_, last⟩
            rw [first, startOf_cons_succ, ← Nat.add_assoc]

/-- Between two stretches there is a line feed at least. -/
theorem pairwise_spansFrom (start : Nat) (ls : List Text) :
    (spansFrom start ls).Pairwise fun a b => a.stop < b.start := by
  induction ls generalizing start with
  | nil => exact List.Pairwise.nil
  | cons line ls ih =>
      have single : (lineSpans start line).Pairwise fun a b => a.stop < b.start := by
        rw [lineSpans]
        split
        · exact List.Pairwise.nil
        · exact List.pairwise_singleton _ _
      refine List.pairwise_append.mpr ⟨single, ih _, fun a inside b later => ?_⟩
      obtain ⟨-, first, last⟩ := mem_lineSpans.mp inside
      obtain ⟨i, next, -, -, first', -⟩ := mem_spansFrom.mp later
      omega

/-! ### The script -/

theorem append_lineStyle (t : Styled) (line : Text) :
    t.append line (lineStyle line) =
      { t with
        plain := t.plain ++ visible line
        spans := t.spans ++ lineSpans t.plain.length line } := by
  rw [Styled.append, lineSpans]
  by_cases plain : lineStyle line = ""
  · simp [plain]
  · have filled : line ≠ [] := by
      rintro rfl
      exact (marked_iff.mpr ⟨rfl, plain⟩).visible_ne_nil rfl
    simp [plain, filled]

theorem append_newline (t : Styled) :
    t.append "\n" "" = { t with plain := t.plain ++ [.char '\n'] } := rfl

/-- What is shown of lines: a line feed stands after each but the last. -/
theorem visible_unlines_cons (line next : Text) (ls : List Text) :
    visible (Text.unlines (line :: next :: ls)) =
      visible line ++ [.char '\n'] ++ visible (Text.unlines (next :: ls)) := by
  have newline : visible ['\n'] = [.char '\n'] := rfl
  rw [← newline, ← visible_append, ← visible_append]
  rfl

/-- **What adding lines leaves as it was and what it adds.** -/
theorem appendLines_eq (t : Styled) (ls : List Text) :
    appendLines t ls =
      { t with
        plain := t.plain ++ visible (Text.unlines ls)
        spans := t.spans ++ spansFrom t.plain.length ls } := by
  induction ls generalizing t with
  | nil => simp [appendLines, Text.unlines, Text.joinWith, visible, spansFrom]
  | cons line ls ih =>
      cases ls with
      | nil =>
          rw [appendLines, append_lineStyle, spansFrom, spansFrom, List.append_nil]
          rfl
      | cons next ls =>
          have stretches : spansFrom t.plain.length (line :: next :: ls) =
              lineSpans t.plain.length line ++
                spansFrom (t.plain.length + ((visible line).length + 1)) (next :: ls) := rfl
          rw [appendLines, ih, append_lineStyle, append_newline, visible_unlines_cons, stretches]
          · simp
          · simp

/-- A line is found where it begins. -/
theorem visible_unlines_eq {ls : List Text} {i : Nat} {line : Text} (listed : ls[i]? = some line) :
    ∃ before after, visible (Text.unlines ls) = before ++ visible line ++ after ∧
      before.length = startOf ls i := by
  induction ls generalizing i with
  | nil => cases listed
  | cons first ls ih =>
      cases ls with
      | nil =>
          cases i with
          | zero =>
              cases Option.some.inj listed
              exact ⟨[], [], (List.append_nil _).symm, rfl⟩
          | succ i => cases listed
      | cons next ls =>
          rw [visible_unlines_cons]
          cases i with
          | zero =>
              cases Option.some.inj listed
              exact ⟨[], _, List.append_assoc _ _ _, rfl⟩
          | succ i =>
              obtain ⟨before, after, tail, place⟩ := ih listed
              refine ⟨visible first ++ [.char '\n'] ++ before, after, ?_, ?_⟩
              · rw [tail]
                simp only [List.append_assoc]
              · simp only [startOf_cons_succ, ← place, List.length_append, List.length_singleton]

/-- A text shows a script with the lines that stand out in their styles. But for the characters that
    a terminal would act on, the script is as it was. -/
structure Highlights (s : Text) (t : Styled) : Prop where
  plain : t.plain = s.filter fun c => c.toNat ∉ [0x07, 0x08, 0x0B, 0x0C, 0x0D]
  unstyled : t.style = ""
  /-- What is shown of a line stands where the line begins. -/
  places : ∀ i line, (Text.lines s)[i]? = some line →
    (t.plain.drop (startOf (Text.lines s) i)).take (visible line).length = visible line
  /-- There is one stretch for each line that stands out, over what is shown of it, and no other. -/
  spans : ∀ span, span ∈ t.spans ↔ ∃ i line, (Text.lines s)[i]? = some line ∧
    Marked line span.style ∧ span.start = startOf (Text.lines s) i ∧
      span.stop = span.start + (visible line).length
  ordered : t.spans.Pairwise fun a b => a.stop < b.start
  within : ∀ span ∈ t.spans, span.start < span.stop ∧ span.stop ≤ t.plain.length

theorem visible_eq (s : Text) :
    visible s = s.filter fun c => c.toNat ∉ [0x07, 0x08, 0x0B, 0x0C, 0x0D] := by
  refine List.filter_congr fun c _ => ?_
  rw [Bool.eq_iff_iff]
  simp [isTerminalControl, and_assoc]

theorem script_eq (s : Text) :
    script s = { plain := visible s, spans := spansFrom 0 (Text.lines s) } := by
  have whole : Text.unlines (Text.lines s) = s := Text.joinWith_pieces '\n' s
  rw [script, appendLines_eq, whole]
  rfl

/-- **A script is shown as it is, with the lines that stand out in their styles.** -/
theorem script_highlights (s : Text) : Highlights s (script s) := by
  have whole : Text.unlines (Text.lines s) = s := Text.joinWith_pieces '\n' s
  have found {i : Nat} {line : Text} (listed : (Text.lines s)[i]? = some line) :
      ∃ before after, visible s = before ++ visible line ++ after ∧
        before.length = startOf (Text.lines s) i := by
    obtain ⟨before, after, shown, place⟩ := visible_unlines_eq listed
    rw [whole] at shown
    exact ⟨before, after, shown, place⟩
  have spans (span : Span) : span ∈ spansFrom 0 (Text.lines s) ↔
      ∃ i line, (Text.lines s)[i]? = some line ∧ Marked line span.style ∧
        span.start = startOf (Text.lines s) i ∧
          span.stop = span.start + (visible line).length := by
    have stretches : span ∈ spansFrom 0 (Text.lines s) ↔ _ := mem_spansFrom
    simpa only [Nat.zero_add] using stretches
  rw [script_eq]
  refine ⟨visible_eq s, rfl, ?_, spans, pairwise_spansFrom 0 _, ?_⟩
  · intro i line listed
    obtain ⟨before, after, shown, place⟩ := found listed
    change ((visible s).drop _).take _ = _
    rw [shown, ← place, List.append_assoc, List.drop_left, List.take_left]
  · intro span member
    obtain ⟨i, line, listed, marked, first, last⟩ := (spans span).mp member
    obtain ⟨before, after, shown, place⟩ := found listed
    have something := List.length_pos_iff.mpr marked.visible_ne_nil
    have length := congrArg List.length shown
    rw [List.length_append, List.length_append] at length
    change span.start < span.stop ∧ span.stop ≤ (visible s).length
    omega

/-- A bell and a carriage return are not shown and not counted, but the bell hides the number sign
    after it, while blanks do not. -/
example : script "\x07#!/bin/sh\r\n \x0c# run\n#SBATCH -W x # Unrecognized PBS flag\n#SBATCH -n 2" =
    { plain := "#!/bin/sh\n # run\n#SBATCH -W x # Unrecognized PBS flag\n#SBATCH -n 2",
      spans := [⟨10, 16, "dim"⟩, ⟨17, 53, "bold red"⟩, ⟨54, 66, "bold cyan"⟩] } := by
  decide +kernel

end ClusterPrep.Display
