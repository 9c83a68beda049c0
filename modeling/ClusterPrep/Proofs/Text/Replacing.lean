import ClusterPrep.Text.Search
import Mathlib.Data.List.Infix

set_option autoImplicit false

/-
  Several names replaced in a text, one after the other or all at once. Where every name and every
  replacement begins with a mark and holds no other, two of them cannot overlap, so that what one
  replacement brings in or leaves is never taken for a part of another name.
-/
namespace ClusterPrep.Text

/-- All occurrences of the names replaced at once, from the left, and everything else copied. -/
inductive Replaced (names : List (Text × Text)) : Text → Text → Prop
  | nil : Replaced names [] []
  | name {v : Text × Text} {s t : Text} (listed : v ∈ names) (rest : Replaced names s t) :
      Replaced names (v.1 ++ s) (v.2 ++ t)
  | copy {c : CodePoint} {s t : Text} (other : ∀ v ∈ names, ¬ v.1 <+: c :: s)
      (rest : Replaced names s t) : Replaced names (c :: s) (c :: t)

/-- A text that begins with the mark and holds no other. -/
def IsMarked (mark : CodePoint) (s : Text) : Prop := s.head? = some mark ∧ mark ∉ s.tail

instance (mark : CodePoint) (s : Text) : Decidable (IsMarked mark s) :=
  inferInstanceAs (Decidable (s.head? = some mark ∧ mark ∉ s.tail))

/-- Names and replacements that are told apart by what follows the mark. -/
structure Distinct (mark : CodePoint) (names : List (Text × Text)) : Prop where
  old : ∀ v ∈ names, IsMarked mark v.1
  new : ∀ v ∈ names, IsMarked mark v.2
  /-- No name and no replacement begins the other. -/
  apart : ∀ v ∈ names, ∀ w ∈ names, ¬ v.1 <+: w.2 ∧ ¬ w.2 <+: v.1
  /-- No name begins another one. -/
  single : ∀ v ∈ names, ∀ w ∈ names, v.1 <+: w.1 → v = w

/-! ### Texts with a mark -/

section

variable {mark c : CodePoint} {s t p : Text}

theorem IsMarked.eq_cons (marked : IsMarked mark s) : ∃ body, s = mark :: body ∧ mark ∉ body := by
  obtain ⟨head, outside⟩ := marked
  obtain ⟨body, rfl⟩ := List.head?_eq_some_iff.mp head
  exact ⟨body, rfl, outside⟩

/-- Where a marked text begins, the mark is there. -/
theorem IsMarked.eq_of_begins (marked : IsMarked mark s) (begins : s <+: c :: t) : c = mark := by
  obtain ⟨body, rfl, -⟩ := marked.eq_cons
  exact (List.cons_prefix_cons.mp begins).1.symm

/-- A marked text begins at no character of a part without a mark. -/
theorem IsMarked.isInfix_of_append (marked : IsMarked mark s) (clear : mark ∉ p)
    (inside : s <:+: p ++ t) : s <:+: t := by
  induction p with
  | nil => exact inside
  | cons c p ih =>
      rcases List.infix_cons_iff.mp inside with begins | inside
      · exact absurd (marked.eq_of_begins begins).symm (List.ne_of_not_mem_cons clear)
      · exact ih (List.not_mem_of_not_mem_cons clear) inside

/-- What begins a text with a character that is not in it ends before this character. -/
theorem begins_of_begins_append (clear : c ∉ p) (begins : p <+: s ++ c :: t) : p <+: s := by
  have whole : s ++ [c] <+: s ++ c :: t := ⟨t, by simp⟩
  rcases List.prefix_or_prefix_of_prefix begins whole with short | long
  · rcases List.prefix_concat_iff.mp short with same | short
    · exact absurd (by simp [same]) clear
    · exact short
  · exact absurd (long.subset (by simp)) clear

end

namespace Distinct

variable {mark : CodePoint} {names others : List (Text × Text)}

theorem of_subset (distinct : Distinct mark names) (inside : ∀ v ∈ others, v ∈ names) :
    Distinct mark others where
  old v member := distinct.old v (inside v member)
  new v member := distinct.new v (inside v member)
  apart v member w member' := distinct.apart v (inside v member) w (inside w member')
  single v member w member' := distinct.single v (inside v member) w (inside w member')

end Distinct

namespace Replaced

section

variable {mark : CodePoint} {names others : List (Text × Text)} {c : CodePoint} {s t u p : Text}

theorem of_mem_iff (same : ∀ v, v ∈ names ↔ v ∈ others) (replaced : Replaced names s t) :
    Replaced others s t := by
  induction replaced with
  | nil => exact .nil
  | name listed _ ih => exact .name ((same _).mp listed) ih
  | copy other _ ih => exact .copy (fun v member => other v ((same v).mpr member)) ih

/-- A text without any of the names is copied. -/
theorem refl (none : ∀ v ∈ names, ¬ v.1 <:+: s) : Replaced names s s := by
  induction s with
  | nil => exact .nil
  | cons c s ih =>
      refine .copy (fun v member begins => none v member begins.isInfix) (ih ?_)
      intro v member inside
      exact none v member (inside.trans (List.suffix_cons c s).isInfix)

/-- What can happen to the first character of a text. -/
theorem cons_cases (replaced : Replaced names (c :: s) t) :
    (∃ v ∈ names, ∃ s' t', c :: s = v.1 ++ s' ∧ t = v.2 ++ t' ∧ Replaced names s' t') ∨
      ∃ t', t = c :: t' ∧ (∀ v ∈ names, ¬ v.1 <+: c :: s) ∧ Replaced names s t' := by
  generalize whole : c :: s = r at replaced
  cases replaced with
  | nil => cases whole
  | @name v s' t' listed rest => exact Or.inl ⟨v, listed, s', t', rfl, rfl, rest⟩
  | copy other rest =>
      cases whole
      exact Or.inr ⟨_, rfl, other, rest⟩

section

variable (marked : ∀ v ∈ names, IsMarked mark v.1)
include marked

/-- A part without a mark is copied. -/
theorem append (clear : mark ∉ p) (replaced : Replaced names s t) :
    Replaced names (p ++ s) (p ++ t) := by
  induction p with
  | nil => exact replaced
  | cons c p ih =>
      refine .copy (fun v member begins => ?_) (ih (List.not_mem_of_not_mem_cons clear))
      exact List.ne_of_not_mem_cons clear ((marked v member).eq_of_begins begins).symm

theorem exists_of_append (clear : mark ∉ p) (replaced : Replaced names (p ++ s) t) :
    ∃ r, t = p ++ r ∧ Replaced names s r := by
  induction p generalizing t with
  | nil => exact ⟨t, rfl, replaced⟩
  | cons c p ih =>
      rcases replaced.cons_cases with ⟨v, listed, s', t', whole, -, -⟩ | ⟨t', rfl, -, rest⟩
      · have begins : v.1 <+: c :: (p ++ s) := ⟨s', whole.symm⟩
        exact absurd ((marked v listed).eq_of_begins begins).symm (List.ne_of_not_mem_cons clear)
      · obtain ⟨r, rfl, after⟩ := ih (List.not_mem_of_not_mem_cons clear) rest
        exact ⟨r, rfl, after⟩

end

/-- A part of the result without a mark was copied. -/
theorem exists_of_append_right (marked : ∀ v ∈ names, IsMarked mark v.2) (clear : mark ∉ p)
    (replaced : Replaced names s (p ++ t)) : ∃ r, s = p ++ r ∧ Replaced names r t := by
  induction p generalizing s with
  | nil => exact ⟨s, rfl, replaced⟩
  | cons c p ih =>
      generalize whole : c :: p ++ t = u at replaced
      cases replaced with
      | nil => cases whole
      | @name v s' t' listed rest =>
          have begins : v.2 <+: c :: (p ++ t) := ⟨t', whole.symm⟩
          exact absurd ((marked v listed).eq_of_begins begins).symm (List.ne_of_not_mem_cons clear)
      | copy other rest =>
          cases whole
          obtain ⟨r, rfl, after⟩ := ih (List.not_mem_of_not_mem_cons clear) rest
          exact ⟨r, rfl, after⟩

end

section

variable {mark : CodePoint} {names : List (Text × Text)} (distinct : Distinct mark names)
  {c : CodePoint} {s t u : Text}
include distinct

/-- A name that begins in the result at a character that was copied began there before. -/
theorem begins_of_begins_right (replaced : Replaced names s t) {v : Text} (marked : IsMarked mark v)
    (begins : v <+: c :: t) : v <+: c :: s := by
  obtain ⟨body, rfl, clear⟩ := marked.eq_cons
  obtain ⟨first, r, rfl⟩ := List.cons_prefix_cons.mp begins
  obtain ⟨r', rfl, -⟩ := replaced.exists_of_append_right distinct.new clear
  exact List.cons_prefix_cons.mpr ⟨first, List.prefix_append _ _⟩

theorem begins_of_begins (replaced : Replaced names s t) {v : Text} (marked : IsMarked mark v)
    (begins : v <+: c :: s) : v <+: c :: t := by
  obtain ⟨body, rfl, clear⟩ := marked.eq_cons
  obtain ⟨first, r, rfl⟩ := List.cons_prefix_cons.mp begins
  obtain ⟨r', rfl, -⟩ := replaced.exists_of_append distinct.old clear
  exact List.cons_prefix_cons.mpr ⟨first, List.prefix_append _ _⟩

theorem eq_nil (replaced : Replaced names [] t) : t = [] := by
  generalize whole : ([] : Text) = r at replaced
  cases replaced with
  | nil => rfl
  | @name v s' t' listed _ =>
      obtain ⟨body, name, -⟩ := (distinct.old v listed).eq_cons
      rw [name] at whole
      cases whole
  | copy => cases whole

/-- What follows a name is all that is left to replace. -/
theorem exists_of_name {v : Text × Text} (listed : v ∈ names)
    (replaced : Replaced names (v.1 ++ s) t) : ∃ r, t = v.2 ++ r ∧ Replaced names s r := by
  obtain ⟨body, name, -⟩ := (distinct.old v listed).eq_cons
  have begins : v.1 <+: mark :: (body ++ s) := ⟨s, by rw [name]; rfl⟩
  rw [name, List.cons_append] at replaced
  rcases replaced.cons_cases with ⟨w, listed', s', t', whole, rfl, rest⟩ | ⟨t', -, other, -⟩
  · have same : v = w := by
      rcases List.prefix_or_prefix_of_prefix begins ⟨s', whole.symm⟩ with short | long
      · exact distinct.single v listed w listed' short
      · exact (distinct.single w listed' v listed long).symm
    subst same
    rw [← List.cons_append, ← name] at whole
    rw [List.append_cancel_left whole]
    exact ⟨t', rfl, rest⟩
  · exact absurd begins (other v listed)

/-- **There is one way to replace all names.** -/
theorem unique (first : Replaced names s t) (second : Replaced names s u) : t = u := by
  induction first generalizing u with
  | nil => exact (second.eq_nil distinct).symm
  | @name v s t listed _ ih =>
      obtain ⟨r, rfl, rest⟩ := second.exists_of_name distinct listed
      rw [ih rest]
  | @copy c s t other _ ih =>
      rcases second.cons_cases with ⟨v, listed, s', t', whole, -, -⟩ | ⟨t', rfl, -, rest⟩
      · exact absurd ⟨s', whole.symm⟩ (other v listed)
      · rw [ih rest]

/-- No name is left, and none is there that was not there before. -/
theorem not_isInfix (replaced : Replaced names s t) : ∀ v ∈ names, ¬ v.1 <:+: t := by
  intro v listed
  have marked := distinct.old v listed
  induction replaced with
  | nil =>
      intro inside
      obtain ⟨body, name, -⟩ := marked.eq_cons
      rw [List.infix_nil.mp inside] at name
      cases name
  | @name w s t listed' _ ih =>
      intro inside
      obtain ⟨body, replacement, clear⟩ := (distinct.new w listed').eq_cons
      have whole : w.2 ++ t = mark :: (body ++ t) := by rw [replacement]; rfl
      rw [whole] at inside
      rcases List.infix_cons_iff.mp inside with begins | inside
      · obtain ⟨shorter, longer⟩ := distinct.apart v listed w listed'
        rcases List.prefix_or_prefix_of_prefix begins ⟨t, whole⟩ with short | long
        · exact shorter short
        · exact longer long
      · exact ih (marked.isInfix_of_append clear inside)
  | @copy c s t other rest ih =>
      intro inside
      rcases List.infix_cons_iff.mp inside with begins | inside
      · exact other v listed (rest.begins_of_begins_right distinct marked begins)
      · exact ih inside

end

/-! ### One name after the other -/

section

variable {mark : CodePoint} {v : Text × Text} {names : List (Text × Text)} {s t u : Text}

/-- What a replacement brought in is copied by the replacements after it. -/
theorem exists_of_new (distinct : Distinct mark (v :: names))
    (replaced : Replaced names (v.2 ++ t) u) : ∃ r, u = v.2 ++ r ∧ Replaced names t r := by
  have old : ∀ w ∈ names, IsMarked mark w.1 := fun w member =>
    distinct.old w (List.mem_cons_of_mem v member)
  obtain ⟨body, replacement, clear⟩ := (distinct.new v List.mem_cons_self).eq_cons
  have begins : v.2 <+: mark :: (body ++ t) := ⟨t, by rw [replacement]; rfl⟩
  rw [replacement, List.cons_append] at replaced
  rcases replaced.cons_cases with ⟨w, listed, s', t', whole, -, -⟩ | ⟨t', rfl, -, rest⟩
  · obtain ⟨shorter, longer⟩ :=
      distinct.apart w (List.mem_cons_of_mem v listed) v List.mem_cons_self
    rcases List.prefix_or_prefix_of_prefix ⟨s', whole.symm⟩ begins with short | long
    · exact absurd short shorter
    · exact absurd long longer
  · obtain ⟨r, rfl, after⟩ := rest.exists_of_append old clear
    exact ⟨r, by rw [replacement]; rfl, after⟩

/-- Replacing one name and then the others replaces all of them at once. -/
theorem cons (distinct : Distinct mark (v :: names)) (first : Replaced [v] s t)
    (second : Replaced names t u) : Replaced (v :: names) s u := by
  have alone : Distinct mark [v] := distinct.of_subset (by simp)
  have others : Distinct mark names := distinct.of_subset fun w => List.mem_cons_of_mem v
  induction first generalizing u with
  | nil =>
      rw [second.eq_nil others]
      exact .nil
  | @name w s t listed _ ih =>
      obtain rfl := List.mem_singleton.mp listed
      obtain ⟨r, rfl, rest⟩ := second.exists_of_new distinct
      exact .name List.mem_cons_self (ih rest)
  | @copy c s t other rest ih =>
      rcases second.cons_cases with
        ⟨w, listed, s', t', whole, rfl, after⟩ | ⟨t', rfl, absent, after⟩
      · -- The name was there before: what follows its mark was copied by the first replacement.
        obtain ⟨body, name, clear⟩ := (others.old w listed).eq_cons
        rw [name, List.cons_append] at whole
        obtain ⟨rfl, rfl⟩ := List.cons.inj whole
        obtain ⟨r, rfl, -⟩ := rest.exists_of_append_right alone.new clear
        obtain ⟨r', same, all⟩ :=
          (ih (after.append others.old clear)).exists_of_append distinct.old clear
        rw [← List.append_cancel_left same] at all
        have before : c :: (body ++ r) = w.1 ++ r := by rw [name]; rfl
        rw [before]
        exact .name (List.mem_cons_of_mem v listed) all
      · refine .copy (fun w listed begins => ?_) (ih after)
        rcases List.mem_cons.mp listed with rfl | listed
        · exact other w List.mem_cons_self begins
        · exact absent w listed (rest.begins_of_begins alone (others.old w listed) begins)

/-- Replacing a name replaces its occurrences from the left. -/
theorem of_replaceAll {old new : Text} (nonempty : old ≠ []) (s : Text) :
    Replaced [(old, new)] s (replaceAll old new s) := by
  -- What is left to skip of an occurrence has been replaced already.
  have skipped (k : Nat) (s : Text) :
      Replaced [(old, new)] (s.drop k) (replaceFrom old new k s) := by
    induction s generalizing k with
    | nil =>
        rw [List.drop_nil]
        cases k <;> exact .nil
    | cons c s ih =>
        cases k with
        | succ k => exact ih k
        | zero =>
            rw [List.drop_zero, replaceFrom]
            split
            · rename_i occurs
              obtain ⟨r, whole⟩ := List.isPrefixOf_iff_prefix.mp occurs
              obtain ⟨d, old, rfl⟩ := List.exists_cons_of_ne_nil nonempty
              have first : d = c := (List.cons.inj whole).1
              have after : old ++ r = s := (List.cons.inj whole).2
              have rest := ih old.length
              rw [← after, List.drop_left] at rest
              rw [← first, ← after]
              exact .name (v := (d :: old, new)) List.mem_cons_self rest
            · rename_i apart
              refine .copy (fun v listed begins => apart ?_) (ih 0)
              rw [List.mem_singleton.mp listed] at begins
              exact List.isPrefixOf_iff_prefix.mpr begins
  exact skipped 0 s

end

end Replaced

/-- The names replaced one after the other, in their order. -/
def replaceEach (names : List (Text × Text)) (s : Text) : Text :=
  names.foldl (fun s v => replaceAll v.1 v.2 s) s

section

variable {mark : CodePoint} {names : List (Text × Text)} (distinct : Distinct mark names)
include distinct

/-- **One after the other is all at once.** -/
theorem replaced_replaceEach (s : Text) : Replaced names s (replaceEach names s) := by
  induction names generalizing s with
  | nil => exact .refl (by simp)
  | cons v names ih =>
      have others : Distinct mark names := distinct.of_subset fun w => List.mem_cons_of_mem v
      have nonempty : v.1 ≠ [] := by
        obtain ⟨body, name, -⟩ := (distinct.old v List.mem_cons_self).eq_cons
        rw [name]
        exact List.cons_ne_nil _ _
      exact (Replaced.of_replaceAll nonempty s).cons distinct (ih others _)

theorem replaced_iff {s t : Text} : Replaced names s t ↔ t = replaceEach names s := by
  constructor
  · intro replaced
    exact replaced.unique distinct (replaced_replaceEach distinct s)
  · rintro rfl
    exact replaced_replaceEach distinct s

/-- The order in which distinct names are replaced does not matter. -/
theorem replaceEach_perm {order : List (Text × Text)} (perm : order.Perm names) (s : Text) :
    replaceEach order s = replaceEach names s := by
  have listed : ∀ v, v ∈ order ↔ v ∈ names := fun v => perm.mem_iff
  have again : Distinct mark order := distinct.of_subset fun v => (listed v).mp
  exact (replaced_iff distinct).mp ((replaced_replaceEach again s).of_mem_iff listed)

theorem replaceEach_replaceEach (s : Text) :
    replaceEach names (replaceEach names s) = replaceEach names s :=
  ((replaced_iff distinct).mp
    (.refl ((replaced_replaceEach distinct s).not_isInfix distinct))).symm

/-- A character of no name is a place where a text can be divided. -/
theorem replaceEach_append {c : CodePoint} (outside : ∀ v ∈ names, c ∉ v.1) (s t : Text) :
    replaceEach names (s ++ c :: t) = replaceEach names s ++ c :: replaceEach names t := by
  have divided {s s' t t' : Text} (first : Replaced names s s') (second : Replaced names t t') :
      Replaced names (s ++ c :: t) (s' ++ c :: t') := by
    induction first with
    | nil =>
        refine .copy (fun v listed begins => outside v listed ?_) second
        obtain ⟨body, name, -⟩ := (distinct.old v listed).eq_cons
        rw [name] at begins ⊢
        rw [(List.cons_prefix_cons.mp begins).1]
        exact List.mem_cons_self
    | @name v s s' listed _ ih =>
        rw [List.append_assoc, List.append_assoc]
        exact .name listed ih
    | copy other _ ih =>
        refine .copy (fun v listed begins => other v listed ?_) ih
        exact begins_of_begins_append (outside v listed) begins
  exact ((replaced_iff distinct).mp
    (divided (replaced_replaceEach distinct s) (replaced_replaceEach distinct t))).symm

theorem replaceEach_unlines (outside : ∀ v ∈ names, .char '\n' ∉ v.1) (ls : List Text) :
    replaceEach names (unlines ls) = unlines (ls.map (replaceEach names)) := by
  induction ls with
  | nil =>
      exact (replaced_replaceEach distinct []).eq_nil distinct
  | cons l ls ih =>
      cases ls with
      | nil => rfl
      | cons m ls =>
          have joined : unlines (l :: m :: ls) = l ++ .char '\n' :: unlines (m :: ls) := by
            simp [unlines, joinWith]
          rw [joined, replaceEach_append distinct outside, ih]
          simp [unlines, joinWith]

end

end ClusterPrep.Text
