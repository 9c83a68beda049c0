import ClusterPrep.Number.Basic
import ClusterPrep.Proofs.Grid.Squarest
import ClusterPrep.Proofs.Number.Roundoff
import ClusterPrep.Proofs.Order.Insertion

set_option autoImplicit false

/-
  The ranking of the grids near a count. It holds each grid that may be suggested once and no other,
  and of two neighbours in it the first does not compare as greater. More cannot be had from sorting
  alone, as the comparison is not transitive.
-/
namespace ClusterPrep.Grid

/-! ### The comparison -/

/-- How `a` compares with `b` as a grid near `n`: below zero where `a` comes first. -/
def compare (n : Int) (a b : Shape) : Number :=
  if alike a b then .int (((a.count : Int) - n).natAbs - ((b.count : Int) - n).natAbs)
  else .real (b.ratio.sub a.ratio)

theorem before_eq (n : Int) (a b : Shape) : before n a b = (compare n a b).lt (.int 0) := by
  rw [before, compare]
  by_cases same : alike a b = true
  · rw [if_pos same, if_pos same]
    exact decide_eq_decide.mpr (by omega)
  · rw [if_neg same, if_neg same, Number.lt_zero_real]

theorem alike_comm (a b : Shape) : alike a b = alike b a := by
  simp only [alike]
  rw [Binary64.abs_sub_comm]

/-- No two grids come before each other. -/
theorem before_asymmetric (n : Int) : Order.Asymmetric (before n) := by
  intro a b first
  rw [before] at first ⊢
  rw [alike_comm b a]
  by_cases same : alike a b = true
  · rw [if_pos same, decide_eq_true_iff] at first
    rw [if_pos same, decide_eq_false_iff_not]
    omega
  · rw [if_neg same] at first ⊢
    exact Binary64.sub_asymmetric _ _ first

/-- Where `b` does not come before `a`, the comparison of `a` with `b` is not above zero. -/
theorem compare_le_zero_iff {n : Int} {a b : Shape} (left : a.ratio.isFinite = true)
    (right : b.ratio.isFinite = true) :
    (compare n a b).le (.int 0) = true ↔ before n b a = false := by
  rw [compare, before, alike_comm b a]
  by_cases same : alike a b = true
  · rw [if_pos same, if_pos same, Number.le_zero_int, decide_eq_false_iff_not]
    omega
  · rw [if_neg same, if_neg same, Number.le_zero_real_iff (Binary64.sub_ne_nan right left),
      Bool.eq_false_iff, Bool.eq_false_iff, Ne, Ne, Binary64.zero_lt_sub_iff right left,
      Binary64.lt_zero_sub_iff left right]

/-! ### The grids to choose from -/

theorem mem_counts {n : Int} {m : Nat} :
    m ∈ counts n ↔ max 1 (n - 5) ≤ (m : Int) ∧ (m : Int) ≤ n + 5 ∧ (m : Int) ≠ n := by
  simp only [counts, radius, List.mem_filter, List.mem_map, List.mem_range, decide_not,
    Bool.not_eq_true', decide_eq_false_iff_not]
  constructor
  · rintro ⟨⟨i, inside, rfl⟩, other⟩
    omega
  · rintro ⟨low, high, other⟩
    exact ⟨⟨((m : Int) - max 1 (n - 5)).toNat, by omega, by omega⟩, other⟩

theorem nodup_counts (n : Int) : (counts n).Nodup := by
  refine List.Nodup.filter _ (List.Nodup.map_on ?_ List.nodup_range)
  intro i _ j _ same
  omega

/-- The grids to choose from are the squarest ones, of a single row for tiny counts only. -/
theorem mem_candidates {n : Int} {s : Shape} :
    s ∈ candidates n ↔ s.count ∈ counts n ∧ s = shapeFor s.count ∧ (1 < s.p ∨ s.count ≤ 3) := by
  simp only [candidates, List.mem_filter, List.mem_map, Bool.or_eq_true, decide_eq_true_eq]
  constructor
  · rintro ⟨⟨m, near, rfl⟩, wide⟩
    exact ⟨near, rfl, wide⟩
  · rintro ⟨near, shape, wide⟩
    exact ⟨⟨s.count, near, shape.symm⟩, wide⟩

theorem nodup_candidates (n : Int) : (candidates n).Nodup := by
  refine List.Nodup.filter _ (List.Nodup.map_on ?_ (nodup_counts n))
  intro i _ j _ same
  exact congrArg Shape.count same

theorem eq_shapeFor_iff {s : Shape} (positive : 1 ≤ s.count) :
    s = shapeFor s.count ↔ squarest s.count = .ok (s.p, s.q) := by
  rw [squarest_of_positive positive]
  constructor
  · intro same
    rw [← same]
  · intro found
    obtain ⟨rows, columns⟩ := Prod.mk.inj (Except.ok.inj found)
    obtain ⟨count, p, q⟩ := s
    change Shape.mk count p q = ⟨count, _, _⟩
    rw [Shape.mk.injEq]
    exact ⟨rfl, rows.symm, columns.symm⟩

theorem positive_of_mem_counts {n : Int} {m : Nat} (near : m ∈ counts n) : 1 ≤ m := by
  have low := (mem_counts.mp near).1
  omega

theorem mem_ranking {n : Int} {s : Shape} : s ∈ ranking n ↔ s ∈ candidates n :=
  (Order.sort_perm _ _).mem_iff

theorem layout_of_mem {n : Int} {s : Shape} (member : s ∈ ranking n) : Layout s.count s.p s.q := by
  obtain ⟨near, shape, -⟩ := mem_candidates.mp (mem_ranking.mp member)
  rw [shape]
  exact layout_shapeFor (positive_of_mem_counts near)

/-- The ratio of a grid, rounded. -/
theorem Layout.ratio {s : Shape} (layout : Layout s.count s.p s.q) :
    s.ratio.IsUnit ∧ 0 ≤ s.ratio.units ∧ |s.ratio.value - s.p / s.q| ≤ Binary64.roundoff :=
  Binary64.value_ofFraction (Nat.lt_of_lt_of_le layout.positive layout.le) layout.le

/-! ### The ranking -/

theorem ranking_eq (n : Int) :
    ranking n = Order.sort (fun a b => (compare n a b).lt (.int 0)) (candidates n) := by
  have same : before n = fun a b => (compare n a b).lt (.int 0) := by
    funext a b
    exact before_eq n a b
  rw [ranking, same]

/-- Of two neighbours in the ranking the first does not compare as greater. -/
theorem isChain_ranking (n : Int) :
    (ranking n).IsChain fun x y => (compare n x y).le (.int 0) = true := by
  refine List.IsChain.imp_of_mem_imp ?_ (Order.ordered_sort (before_asymmetric n) (candidates n))
  intro x y first second settled
  exact (compare_le_zero_iff (layout_of_mem first).ratio.1.finite
    (layout_of_mem second).ratio.1.finite).mpr settled

/-- Three grids that the tolerance chains: the first two are alike and so are the last two, but not
    the first and the last. -/
theorem nearby_chained :
    nearby 39398 = [⟨39396, 196, 201⟩, ⟨39400, 197, 200⟩, ⟨39402, 198, 199⟩] := by
  decide +kernel

/-- The comparison is not transitive, not even among the grids near one count. -/
theorem compare_not_transitive :
    ∃ n : Int, ∃ x ∈ ranking n, ∃ y ∈ ranking n, ∃ z ∈ ranking n,
      (compare n x y).le (.int 0) = true ∧ (compare n y z).le (.int 0) = true ∧
        (compare n x z).le (.int 0) = false := by
  have ranked : ∀ s ∈ nearby 39398, s ∈ ranking 39398 := fun s => List.mem_of_mem_take
  rw [nearby_chained] at ranked
  refine ⟨39398, _, ranked ⟨39396, 196, 201⟩ (by simp), _, ranked ⟨39400, 197, 200⟩ (by simp), _,
    ranked ⟨39402, 198, 199⟩ (by simp), ?_⟩
  decide +kernel

/-- The ranking near a count holds exactly the squarest grids for the other counts within five of it
    that are not below one, each once, a single row being left out but for counts up to three. Its
    first three entries are suggested. Of two neighbours in it the first does not compare as
    greater, although the comparison is not transitive. -/
theorem ranking_complete :
    (∀ n : Int, ranking n = Order.sort (fun a b => (compare n a b).lt (.int 0)) (candidates n) ∧
      (ranking n).Nodup ∧
      (∀ s : Shape, s ∈ ranking n ↔ max 1 (n - 5) ≤ (s.count : Int) ∧ (s.count : Int) ≤ n + 5 ∧
        (s.count : Int) ≠ n ∧ squarest s.count = .ok (s.p, s.q) ∧ (1 < s.p ∨ s.count ≤ 3)) ∧
      nearby n = (ranking n).take (min 3 (ranking n).length) ∧
      (nearby n).length = min 3 (ranking n).length ∧
      (ranking n).IsChain fun x y => (compare n x y).le (.int 0) = true) ∧
    ∃ n : Int, ∃ x ∈ ranking n, ∃ y ∈ ranking n, ∃ z ∈ ranking n,
      (compare n x y).le (.int 0) = true ∧ (compare n y z).le (.int 0) = true ∧
        (compare n x z).le (.int 0) = false := by
  refine ⟨fun n => ⟨ranking_eq n, (Order.sort_perm _ _).nodup_iff.mpr (nodup_candidates n),
    fun s => ?_, List.take_eq_take_min, List.length_take, isChain_ranking n⟩,
    compare_not_transitive⟩
  rw [mem_ranking, mem_candidates]
  constructor
  · rintro ⟨near, shape, wide⟩
    have found := (eq_shapeFor_iff (positive_of_mem_counts near)).mp shape
    obtain ⟨low, high, other⟩ := mem_counts.mp near
    exact ⟨low, high, other, found, wide⟩
  · rintro ⟨low, high, other, found, wide⟩
    have near := mem_counts.mpr ⟨low, high, other⟩
    exact ⟨near, (eq_shapeFor_iff (positive_of_mem_counts near)).mpr found, wide⟩

end ClusterPrep.Grid
