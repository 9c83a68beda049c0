import ClusterPrep.Hpl.Layout
import ClusterPrep.Proofs.Grid.Squarest
import ClusterPrep.Proofs.Hpl.Sanity
import ClusterPrep.Proofs.Number.Range

set_option autoImplicit false

/-
  A configuration that is laid out anew. Nothing is wrong with its only grid, and what else was
  wrong with it still is.
-/
namespace ClusterPrep.Hpl

/-! ### What a problem is about -/

/-- What problems about P, about Q and about a grid begin with. -/
def gridMarks : List Text := ["Ps ", "Qs ", "Grid "]

def isAboutGrid (problem : Text) : Bool :=
  gridMarks.any fun start => start.isPrefixOf problem

/-- The problems that are about something else. -/
def apartFromGrids (found : List Text) : List Text :=
  found.filter fun problem => !isAboutGrid problem

theorem isAboutGrid_label (f : Field) (rest : Text) :
    isAboutGrid (Text.ofString f.label ++ .char ' ' :: rest) =
      decide (f = .multi .ps ∨ f = .multi .qs) := by
  cases f with
  | single f =>
      cases f <;>
        simp [isAboutGrid, gridMarks, Field.label, Single.label, Text.ofString, Text.ofChars,
          List.isPrefixOf]
  | multi f =>
      cases f <;>
        simp [isAboutGrid, gridMarks, Field.label, Multi.label, Text.ofString, Text.ofChars,
          List.isPrefixOf]

theorem isAboutGrid_append {start : Text} (mark : start ∈ gridMarks) (rest : Text) :
    isAboutGrid (start ++ rest) = true :=
  List.any_eq_true.mpr ⟨start, mark, List.isPrefixOf_iff_prefix.mpr (List.prefix_append start rest)⟩

section

variable {c : Config} {found : List Text} {problem : Text}

/-- The problems of a list field begin with its name. -/
theorem exists_of_mem_multiProblems {f : Multi} (made : multiProblems c f = .ok found)
    (member : problem ∈ found) : ∃ rest, problem = Text.ofString f.label ++ .char ' ' :: rest := by
  rw [multiProblems] at made
  split at made
  · cases made
    exact ⟨_, List.mem_singleton.mp member⟩
  · obtain ⟨bad, -, made⟩ := Attempt.exists_of_bind made
    split at made
    · obtain ⟨shown, -, made⟩ := Attempt.exists_of_bind made
      cases made
      rw [List.mem_singleton.mp member, List.append_assoc]
      exact ⟨_, rfl⟩
    · split at made
      · cases made
        exact ⟨_, List.mem_singleton.mp member⟩
      · cases made
        cases member

theorem exists_of_mem_singleProblems {f : Single} (made : singleProblems c f = .ok found)
    (member : problem ∈ found) : ∃ rest, problem = Text.ofString f.label ++ .char ' ' :: rest := by
  rw [singleProblems] at made
  split at made
  · cases made
    cases member
  · obtain ⟨proper, -, made⟩ := Attempt.exists_of_bind made
    cases made
    split at member
    · cases member
    · exact ⟨_, List.mem_singleton.mp member⟩

theorem exists_of_mem_gridProblems {available p q : Value}
    (made : gridProblems available p q = .ok found) (member : problem ∈ found) :
    ∃ rest, problem = Text.ofString "Grid " ++ rest := by
  obtain ⟨proper, -, made⟩ := Attempt.exists_of_bind made
  split at made
  · cases made
    cases member
  obtain ⟨proper', -, made⟩ := Attempt.exists_of_bind made
  split at made
  · cases made
    cases member
  split at made
  · obtain ⟨n, -, made⟩ := Attempt.exists_of_bind made
    dsimp only at made
    split at made
    · split at made
      · obtain ⟨rows, -, made⟩ := Attempt.exists_of_bind made
        obtain ⟨columns, -, made⟩ := Attempt.exists_of_bind made
        obtain ⟨needed, -, made⟩ := Attempt.exists_of_bind made
        obtain ⟨limit, -, made⟩ := Attempt.exists_of_bind made
        cases made
        rw [List.mem_singleton.mp member]
        simp only [List.append_assoc]
        exact ⟨_, rfl⟩
      · cases made
        cases member
    · cases made
  · cases made
    cases member

theorem exists_of_mem_pairingProblems (member : problem ∈ pairingProblems c) :
    ∃ rest, problem = Text.ofString "Ps " ++ rest := by
  have opening (rest : String) : Text.ofString ("Ps and Qs must have the same length (" ++ rest) =
      Text.ofString "Ps " ++ Text.ofString ("and Qs must have the same length (" ++ rest) := by
    simp [Text.ofString, Text.ofChars]
  rw [pairingProblems] at member
  split at member
  · cases member
  · rw [List.mem_singleton.mp member]
    simp only [toString, String.append_assoc]
    exact ⟨_, opening _⟩

/-! ### Which problems are about something else -/

theorem apartFromGrids_of_marked (marked : ∀ problem ∈ found, isAboutGrid problem = true) :
    apartFromGrids found = [] := by
  rw [apartFromGrids, List.filter_eq_nil_iff]
  intro problem member
  rw [marked problem member]
  decide

theorem apartFromGrids_of_unmarked (unmarked : ∀ problem ∈ found, isAboutGrid problem = false) :
    apartFromGrids found = found := by
  rw [apartFromGrids, List.filter_eq_self]
  intro problem member
  rw [unmarked problem member]
  rfl

theorem apartFromGrids_pairingProblems : apartFromGrids (pairingProblems c) = [] := by
  refine apartFromGrids_of_marked fun problem member => ?_
  obtain ⟨rest, rfl⟩ := exists_of_mem_pairingProblems member
  exact isAboutGrid_append List.mem_cons_self rest

theorem apartFromGrids_singleProblems {f : Single} (made : singleProblems c f = .ok found) :
    apartFromGrids found = found := by
  refine apartFromGrids_of_unmarked fun problem member => ?_
  obtain ⟨rest, rfl⟩ := exists_of_mem_singleProblems made member
  exact (isAboutGrid_label (.single f) rest).trans (by simp)

theorem apartFromGrids_multiProblems {f : Multi} (made : multiProblems c f = .ok found) :
    apartFromGrids found = if f = .ps ∨ f = .qs then [] else found := by
  have named (problem : Text) (member : problem ∈ found) :
      isAboutGrid problem = decide (f = .ps ∨ f = .qs) := by
    obtain ⟨rest, rfl⟩ := exists_of_mem_multiProblems made member
    exact (isAboutGrid_label (.multi f) rest).trans (by simp)
  split
  · rename_i grid
    exact apartFromGrids_of_marked fun problem member =>
      (named problem member).trans (decide_eq_true grid)
  · rename_i other
    exact apartFromGrids_of_unmarked fun problem member =>
      (named problem member).trans (decide_eq_false other)

theorem apartFromGrids_gridsProblems {available : Value}
    (made : gridsProblems available c = .ok found) : apartFromGrids found = [] := by
  obtain ⟨parts, all, made⟩ := Attempt.exists_of_bind made
  cases made
  refine apartFromGrids_of_marked fun problem member => ?_
  obtain ⟨part, inside, member⟩ := List.mem_flatten.mp member
  obtain ⟨pq, -, made⟩ := Attempt.exists_of_mem_mapM all inside
  obtain ⟨rest, rfl⟩ := exists_of_mem_gridProblems made member
  exact isAboutGrid_append (by decide) rest

theorem apartFromGrids_append (found others : List Text) :
    apartFromGrids (found ++ others) = apartFromGrids found ++ apartFromGrids others :=
  List.filter_append found others

theorem apartFromGrids_flatten (parts : List (List Text)) :
    apartFromGrids parts.flatten = (parts.map apartFromGrids).flatten :=
  List.filter_flatten

end

/-! ### The new grid -/

/-- The configuration with a single grid. -/
def Config.withGrid (c : Config) (p q : Int) : Config :=
  { c with ps := [.int p], qs := [.int q] }

/-- A configuration is laid out for one process at least, with a grid that takes them all. -/
theorem exists_laidOut {n : Int} (positive : 1 ≤ n) (c : Config) :
    ∃ p q : Int, 1 ≤ p ∧ 1 ≤ q ∧ p * q = n ∧ c.laidOut n = .ok (c.withGrid p q) := by
  obtain ⟨k, rfl⟩ : ∃ k : Nat, n = k := ⟨n.toNat, by omega⟩
  have positive : 1 ≤ k := by omega
  have layout := Grid.layout_shapeFor positive
  have rows := layout.positive
  have columns := layout.le
  refine ⟨(Grid.shapeFor k).p, (Grid.shapeFor k).q, by omega, by omega, ?_, ?_⟩
  · exact_mod_cast layout.product
  · rw [Config.laidOut, Grid.squarest_of_positive positive]
    rfl

section

variable (c : Config) (p q : Int)

@[simp] theorem Config.single_withGrid (f : Single) : (c.withGrid p q).single f = c.single f := by
  cases f <;> rfl

theorem Config.multi_withGrid_of_ne {f : Multi} (apart : f ≠ .ps) (other : f ≠ .qs) :
    (c.withGrid p q).multi f = c.multi f := by
  cases f <;> first | rfl | exact absurd rfl apart | exact absurd rfl other

theorem Config.get_withGrid_of_ne {f : Field} (apart : f ≠ .multi .ps) (other : f ≠ .multi .qs) :
    (c.withGrid p q).get f = c.get f := by
  cases f with
  | single f => exact c.single_withGrid p q f
  | multi f =>
      refine congrArg Value.list (c.multi_withGrid_of_ne p q ?_ ?_)
      · exact fun same => apart (congrArg Field.multi same)
      · exact fun same => other (congrArg Field.multi same)

end

/-- A positive whole number within the reals. -/
structure IsLength (i : Int) : Prop where
  positive : 1 ≤ i
  finite : (Binary64.ofInt i).isFinite = true

/-- Both factors of such a number are of the same sort. -/
theorem isLength_of_mul {p q : Int} (rows : 1 ≤ p) (columns : 1 ≤ q)
    (finite : (Binary64.ofInt (p * q)).isFinite = true) : IsLength p ∧ IsLength q := by
  rw [Binary64.isFinite_ofInt_iff, Int.natAbs_mul] at finite
  refine ⟨⟨rows, ?_⟩, columns, ?_⟩
  · rw [Binary64.isFinite_ofInt_iff]
    exact Nat.lt_of_le_of_lt (Nat.le_mul_of_pos_right _ (by omega)) finite
  · rw [Binary64.isFinite_ofInt_iff]
    exact Nat.lt_of_le_of_lt (Nat.le_mul_of_pos_left _ (by omega)) finite

namespace IsLength

variable {i p q : Int}

theorem isNumber (length : IsLength i) : Hpl.isNumber (.int i) = .ok true := by
  rw [Hpl.isNumber, Binary64.ofInt?, Binary64.unlessInfinite_of_isFinite length.finite]
  rfl

theorem short (length : IsLength i) : (Numeral.ofNat i.natAbs).length ≤ Numeral.maxDigits :=
  Binary64.length_ofNat_of_isFinite length.finite

theorem isAboveZero (length : IsLength i) : IsAboveZero (.int i) := ⟨.int i, rfl, length.positive⟩

theorem multiProblems {c : Config} {f : Multi} (length : IsLength i) (only : c.multi f = [.int i]) :
    Hpl.multiProblems c f = .ok [] := by
  have proper : IsProper (.int i) := trivial
  have above := (isAtMostZero_eq_false_iff proper).mpr length.isAboveZero
  rw [multiProblems_eq_nil_iff, only]
  simpa using ⟨length.isNumber, fun _ => above⟩

theorem gridProblems (rows : IsLength p) (columns : IsLength q) :
    Hpl.gridProblems (.int (p * q)) (.int p) (.int q) = .ok [] := by
  refine (gridProblems_eq_nil_iff rows.isNumber columns.isNumber rows.isAboveZero
    columns.isAboveZero).mpr ⟨.int p, .int q, .int (p * q), rfl, rfl, rfl, ?_⟩
  simp [Number.le, Number.eq]

end IsLength

section

variable {c : Config} {p q : Int} (rows : IsLength p) (columns : IsLength q)
include rows columns

theorem multiProblems_withGrid (f : Multi) :
    multiProblems (c.withGrid p q) f =
      if f = .ps ∨ f = .qs then .ok [] else multiProblems c f := by
  split
  · rename_i grid
    rcases grid with rfl | rfl
    · exact rows.multiProblems rfl
    · exact columns.multiProblems rfl
  · rename_i other
    rw [not_or] at other
    rw [multiProblems, multiProblems, c.multi_withGrid_of_ne p q other.1 other.2]

theorem gridsProblems_withGrid : gridsProblems (.int (p * q)) (c.withGrid p q) = .ok [] := by
  rw [gridsProblems_eq_nil_iff]
  intro pq member
  rw [List.mem_singleton.mp member]
  exact rows.gridProblems columns

/-- What is wrong with a configuration that has a new grid, for the processes that this takes, is
    what was wrong before, but for the grids. -/
theorem problems_withGrid {found : List Text}
    (checked : problems c (.int (p * q)) = .ok found) :
    problems (c.withGrid p q) (.int (p * q)) = .ok (apartFromGrids found) := by
  obtain ⟨ls, lists, checked⟩ := Attempt.exists_of_bind checked
  obtain ⟨ss, singles, checked⟩ := Attempt.exists_of_bind checked
  obtain ⟨gs, grids, checked⟩ := Attempt.exists_of_bind checked
  cases checked
  have listsAfter : multis.mapM (multiProblems (c.withGrid p q)) =
      .ok (ls.map apartFromGrids) := by
    refine Attempt.mapM_eq_ok_map lists fun f _ part made => ?_
    rw [multiProblems_withGrid rows columns, apartFromGrids_multiProblems made, made]
    split <;> rfl
  have singlesAfter : numericSingles.mapM (singleProblems (c.withGrid p q)) =
      .ok (ss.map apartFromGrids) := by
    refine Attempt.mapM_eq_ok_map singles fun f _ part made => ?_
    rw [singleProblems, c.single_withGrid, ← singleProblems,
      apartFromGrids_singleProblems made, made]
  have pairingAfter : pairingProblems (c.withGrid p q) = [] := pairingProblems_eq_nil_iff.mpr rfl
  have gridsAfter := gridsProblems_withGrid (c := c) rows columns
  rw [apartFromGrids_append, apartFromGrids_append, apartFromGrids_append, apartFromGrids_flatten,
    apartFromGrids_flatten, apartFromGrids_pairingProblems, apartFromGrids_gridsProblems grids]
  rw [problems_eq_ok listsAfter singlesAfter gridsAfter, pairingAfter]

end

end ClusterPrep.Hpl
