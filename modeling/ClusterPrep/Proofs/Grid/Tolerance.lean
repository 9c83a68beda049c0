import ClusterPrep.Proofs.Grid.Ranking
import Mathlib.Tactic.NormNum

set_option autoImplicit false

/-
  The order of the suggested grids. It is to be this: of two grids whose ratios differ by less than
  a hundredth the one for the nearer count comes first, and otherwise the squarer one. Neighbours
  always stand so. The first and the last of three may not, as a tolerance can chain grids that it
  does not join.
-/
namespace ClusterPrep.Grid

open Binary64

/-- Rows by columns, exactly. -/
def Shape.fraction (s : Shape) : ℚ := s.p / s.q

/-- The ratios of two grids differ by less than a hundredth. -/
def close (x y : Shape) : Bool := |x.fraction - y.fraction| < 1 / 100

/-- The grid `x` may stand before `y`: if their ratios count as equal, its count is no farther from
    `n`, and otherwise its ratio is the larger one. -/
def InOrder (equal : Shape → Shape → Bool) (n : Int) (x y : Shape) : Prop :=
  (equal x y = true → ((x.count : Int) - n).natAbs ≤ ((y.count : Int) - n).natAbs) ∧
    (equal x y = false → y.fraction < x.fraction)

/-- Of three grids in a row, the first and the last are the wrong way round. Either each of them
    counts as equal to the one between, but they not to each other, or they count as equal and only
    one of them to the one between. -/
def Entangled (equal : Shape → Shape → Bool) (n : Int) (x y z : Shape) : Prop :=
  (equal x y = true ∧ equal y z = true ∧ equal x z = false ∧ x.fraction < z.fraction) ∨
    (equal x z = true ∧ equal x y ≠ equal y z ∧
      ((z.count : Int) - n).natAbs < ((x.count : Int) - n).natAbs)

/-- How far at most the rounded difference of two ratios is from the exact one, with that of the
    tolerance. -/
def margin : ℚ := 1 / 2 ^ 50

/-- The difference of the ratios is not so near to a hundredth that rounding could matter. -/
def Clear (x y : Shape) : Prop := margin ≤ |(|x.fraction - y.fraction|) - 1 / 100|

/-! ### Ratios and their differences, rounded -/

variable {n : Int} {s x y z : Shape}

theorem Layout.fraction_bounds (layout : Layout s.count s.p s.q) :
    0 ≤ s.fraction ∧ s.fraction ≤ 1 := by
  have columns : (0 : ℚ) < s.q :=
    Nat.cast_pos.mpr (Nat.lt_of_lt_of_le layout.positive layout.le)
  have le : (s.p : ℚ) ≤ s.q := Nat.cast_le.mpr layout.le
  exact ⟨div_nonneg (Nat.cast_nonneg _) columns.le, (div_le_one columns).mpr le⟩

/-- How far the ratio is from that of a square. -/
def Shape.excess (s : Shape) : Binary64 := ((ofInt 1).sub s.ratio).abs

theorem alike_eq (x y : Shape) :
    alike x y = ((y.excess.sub x.excess).abs).lt (.ofDecimal false 1 (-2)) := rfl

theorem Layout.excess (layout : Layout s.count s.p s.q) :
    s.excess.IsUnit ∧ 0 ≤ s.excess.units ∧
      |s.excess.value - (1 - s.fraction)| ≤ 2 * roundoff := by
  obtain ⟨⟨finite, within⟩, least, near⟩ := layout.ratio
  obtain ⟨⟨oneFinite, oneUnits⟩, -⟩ := ofInt_one_ten
  have unit : (ofInt 1).value = 1 := by
    rw [value, oneUnits, Int.cast_natCast, div_self one_value_pos.ne']
  have small : ((ofInt 1).units - s.ratio.units).natAbs ≤ one := by
    rw [oneUnits]
    omega
  obtain ⟨difference, off⟩ := value_sub oneFinite finite small
  refine ⟨difference.abs, by rw [Shape.excess, units_abs]; exact abs_nonneg _, ?_⟩
  have square : 0 ≤ 1 - s.fraction := sub_nonneg.mpr layout.fraction_bounds.2
  rw [unit] at off
  calc
    |s.excess.value - (1 - s.fraction)|
      = |(|((ofInt 1).sub s.ratio).value|) - (|1 - s.fraction|)| := by
        rw [Shape.excess, value_abs, abs_of_nonneg square]
    _ ≤ |((ofInt 1).sub s.ratio).value - (1 - s.fraction)| := abs_abs_sub_abs_le _ _
    _ = |((ofInt 1).sub s.ratio).value - (1 - s.ratio.value) - (s.ratio.value - s.p / s.q)| := by
        rw [Shape.fraction]
        ring_nf
    _ ≤ roundoff + roundoff := (abs_sub _ _).trans (add_le_add off near)
    _ = 2 * roundoff := (two_mul _).symm

/-- The difference that is compared with the tolerance is nearly that of the ratios. -/
theorem value_difference (left : Layout x.count x.p x.q) (right : Layout y.count y.p y.q) :
    ((y.excess.sub x.excess).abs).isFinite = true ∧
      |((y.excess.sub x.excess).abs).value - (|x.fraction - y.fraction|)| ≤ 5 * roundoff := by
  obtain ⟨⟨finite, within⟩, least, near⟩ := left.excess
  obtain ⟨⟨finite', within'⟩, least', near'⟩ := right.excess
  obtain ⟨unit, off⟩ := value_sub finite' finite (by omega)
  refine ⟨unit.abs.finite, ?_⟩
  rw [value_abs]
  refine (abs_abs_sub_abs_le _ _).trans ?_
  rw [abs_le] at near near' off ⊢
  constructor <;> linarith

theorem value_tolerance :
    (ofDecimal false 1 (-2)).isFinite = true ∧
      |(ofDecimal false 1 (-2)).value - 1 / 100| ≤ roundoff := by
  have fraction : ofDecimal false 1 (-2) = ofFraction false 1 100 := by decide +kernel
  obtain ⟨unit, -, near⟩ := value_ofFraction (n := 1) (d := 100) (by decide) (by decide)
  rw [fraction]
  exact ⟨unit.finite, by exact_mod_cast near⟩

theorem margin_pos : 0 < margin := by
  rw [margin]
  norm_num

theorem margin_lt : 4 * margin < 1 / 100 := by
  rw [margin]
  norm_num

theorem roundoff_lt_margin : 6 * roundoff < margin := by
  rw [roundoff, margin]
  norm_num

/-- Grids count as alike if the difference of their ratios is less than a hundredth, but for the
    margin. -/
theorem alike_bounds (left : Layout x.count x.p x.q) (right : Layout y.count y.p y.q) :
    (alike x y = true → |x.fraction - y.fraction| < 1 / 100 + margin) ∧
      (alike x y = false → 1 / 100 - margin < |x.fraction - y.fraction|) := by
  obtain ⟨finite, near⟩ := value_difference left right
  obtain ⟨finite', near'⟩ := value_tolerance
  have slack := roundoff_lt_margin
  have test := value_lt_iff finite finite'
  rw [← alike_eq] at test
  rw [abs_le] at near near'
  constructor
  · intro same
    have less := test.mp same
    linarith
  · intro apart
    have notLess : ¬ _ := fun less => Bool.false_ne_true (apart.symm.trans (test.mpr less))
    linarith

/-- Where rounding does not matter, the tolerance is applied to the ratios themselves. -/
theorem alike_eq_close (left : Layout x.count x.p x.q) (right : Layout y.count y.p y.q)
    (clear : Clear x y) : alike x y = close x y := by
  obtain ⟨near, far⟩ := alike_bounds left right
  rw [Clear, le_abs] at clear
  have positive := margin_pos
  cases same : alike x y with
  | true =>
      have less := near same
      symm
      rw [close, decide_eq_true_iff]
      rcases clear with above | below
      · linarith
      · linarith
  | false =>
      have more := far same
      symm
      rw [close, decide_eq_false_iff_not]
      rcases clear with above | below
      · linarith
      · linarith

/-! ### The order of the suggestions -/

/-- Where `y` does not come before `x`, the grid `x` may stand before `y`. -/
theorem inOrder_of_not_before (left : Layout x.count x.p x.q) (right : Layout y.count y.p y.q)
    (settled : before n y x = false) : InOrder alike n x y := by
  rw [before, alike_comm y x] at settled
  constructor
  · intro same
    rw [if_pos same, decide_eq_false_iff_not] at settled
    omega
  · intro apart
    have farther := (alike_bounds left right).2 apart
    have finite := left.ratio.1.finite
    have finite' := right.ratio.1.finite
    have nearLeft := abs_le.mp left.ratio.2.2
    have nearRight := abs_le.mp right.ratio.2.2
    have slack := roundoff_lt_margin
    have narrow := margin_lt
    rw [apart, if_neg Bool.false_ne_true, Bool.eq_false_iff, Ne, lt_zero_sub_iff finite finite',
      ← lt_iff_units finite finite', value_lt_iff finite finite'] at settled
    rw [← Shape.fraction] at nearLeft nearRight
    -- The ratios differ by far more than rounding can have changed them.
    by_contra wrong
    rw [abs_of_nonpos (by linarith)] at farther
    linarith

/-- Two neighbours in the ranking are in order. -/
theorem isChain_inOrder (n : Int) : (ranking n).IsChain (InOrder alike n) := by
  refine List.IsChain.imp_of_mem_imp ?_ (Order.ordered_sort (before_asymmetric n) (candidates n))
  intro x y first second settled
  exact inOrder_of_not_before (layout_of_mem first) (layout_of_mem second) settled

/-- Two steps down of more than the tolerance do not lead back to within it. -/
theorem apart_of_steps (first : Layout x.count x.p x.q) (second : Layout y.count y.p y.q)
    (third : Layout z.count z.p z.q) (xy : InOrder alike n x y) (yz : InOrder alike n y z)
    (apart : alike x y = false) (apart' : alike y z = false) : alike x z = false := by
  have narrow := margin_lt
  have positive := margin_pos
  have step := (alike_bounds first second).2 apart
  have step' := (alike_bounds second third).2 apart'
  have down := xy.2 apart
  have down' := yz.2 apart'
  rw [abs_of_pos (sub_pos.mpr down)] at step
  rw [abs_of_pos (sub_pos.mpr down')] at step'
  cases same : alike x z with
  | false => rfl
  | true =>
      have near := abs_lt.mp ((alike_bounds first third).1 same)
      linarith

/-- A grid can come before a much squarer one with one between them only where the tolerance joins
    both to that one. -/
theorem alike_of_larger (first : Layout x.count x.p x.q) (second : Layout y.count y.p y.q)
    (third : Layout z.count z.p z.q) (xy : InOrder alike n x y) (yz : InOrder alike n y z)
    (apart : alike x z = false) (larger : x.fraction ≤ z.fraction) :
    alike x y = true ∧ alike y z = true ∧ x.fraction < z.fraction := by
  have narrow := margin_lt
  have positive := margin_pos
  obtain ⟨nearXY, farXY⟩ := alike_bounds first second
  obtain ⟨nearYZ, farYZ⟩ := alike_bounds second third
  have up := (alike_bounds first third).2 apart
  rw [abs_of_nonpos (sub_nonpos.mpr larger)] at up
  cases link : alike x y with
  | false =>
      have down := xy.2 link
      have step := farXY link
      rw [abs_of_pos (sub_pos.mpr down)] at step
      cases link' : alike y z with
      | false =>
          have down' := yz.2 link'
          linarith
      | true =>
          have near := abs_lt.mp (nearYZ link')
          linarith
  | true =>
      have near := abs_lt.mp (nearXY link)
      cases link' : alike y z with
      | false =>
          have down' := yz.2 link'
          have step := farYZ link'
          rw [abs_of_pos (sub_pos.mpr down')] at step
          linarith
      | true => exact ⟨rfl, rfl, by linarith⟩

/-- Of three grids each of which may stand before the next, the first and the last are in order
    unless the three are entangled. -/
theorem inOrder_iff_not_entangled (first : Layout x.count x.p x.q)
    (second : Layout y.count y.p y.q) (third : Layout z.count z.p z.q)
    (xy : InOrder alike n x y) (yz : InOrder alike n y z) :
    InOrder alike n x z ↔ ¬ Entangled alike n x y z := by
  constructor
  · rintro ⟨nearer, larger⟩ (⟨-, -, apart, smaller⟩ | ⟨same, -, farther⟩)
    · exact lt_asymm (larger apart) smaller
    · exact Nat.not_lt.mpr (nearer same) farther
  · intro free
    constructor
    · intro same
      by_contra wrong
      refine free (.inr ⟨same, fun links => ?_, Nat.lt_of_not_le wrong⟩)
      cases link : alike x y with
      | true => exact wrong ((xy.1 link).trans (yz.1 (links.symm.trans link)))
      | false =>
          have apart := apart_of_steps first second third xy yz link (links.symm.trans link)
          exact Bool.false_ne_true (apart.symm.trans same)
    · intro apart
      by_contra wrong
      obtain ⟨link, link', smaller⟩ :=
        alike_of_larger first second third xy yz apart (not_lt.mp wrong)
      exact free (.inl ⟨link, link', apart, smaller⟩)

/-- In a row of at most three whose neighbours are related, only the first and the last may not
    be. -/
theorem pairwise_iff_of_isChain {related : Shape → Shape → Prop} {shapes : List Shape}
    (short : shapes.length ≤ 3) (chain : shapes.IsChain related) :
    shapes.Pairwise related ↔ ∀ x y z, shapes = [x, y, z] → related x z := by
  match shapes, short with
  | [], _ => simp
  | [x], _ => simp
  | [x, y], _ => simpa using chain
  | [x, y, z], _ =>
      simp only [List.isChain_cons_cons] at chain
      simp [chain.1, chain.2.1]

/-! ### The suggestions -/

theorem nearby_length_le (n : Int) : (nearby n).length ≤ 3 := by
  rw [nearby, List.length_take]
  exact Nat.min_le_left ..

theorem layout_of_mem_nearby (member : s ∈ nearby n) : Layout s.count s.p s.q :=
  layout_of_mem (List.mem_of_mem_take member)

theorem isChain_nearby (n : Int) : (nearby n).IsChain (InOrder alike n) :=
  (isChain_inOrder n).take 3

/-- Two tests that agree on some grids order them alike. -/
theorem inOrder_congr {equal equal' : Shape → Shape → Bool} {n : Int} {x y : Shape}
    (same : equal x y = equal' x y) : InOrder equal n x y ↔ InOrder equal' n x y := by
  rw [InOrder, InOrder, same]

/-- Of the suggested grids, each two neighbours are in order. The first and the last of three are so
    as well, unless the three are entangled. Where no difference of ratios is so near to a hundredth
    that rounding matters, it is the exact differences that tell. -/
theorem nearby_inOrder_iff (n : Int) :
    (nearby n).IsChain (InOrder alike n) ∧
    ((nearby n).Pairwise (InOrder alike n) ↔
      ∀ x y z, nearby n = [x, y, z] → ¬ Entangled alike n x y z) ∧
    ((∀ x ∈ nearby n, ∀ y ∈ nearby n, Clear x y) →
      (nearby n).IsChain (InOrder close n) ∧
      ((nearby n).Pairwise (InOrder close n) ↔
        ∀ x y z, nearby n = [x, y, z] → ¬ Entangled close n x y z)) := by
  have rounded : (nearby n).Pairwise (InOrder alike n) ↔
      ∀ x y z, nearby n = [x, y, z] → ¬ Entangled alike n x y z := by
    rw [pairwise_iff_of_isChain (nearby_length_le n) (isChain_nearby n)]
    refine forall_congr' fun x => forall_congr' fun y => forall_congr' fun z =>
      forall_congr' fun three => ?_
    have layout : ∀ s ∈ [x, y, z], Layout s.count s.p s.q := fun s member =>
      layout_of_mem_nearby (n := n) (three ▸ member)
    have chain := isChain_nearby n
    simp only [three, List.isChain_cons_cons] at chain
    exact inOrder_iff_not_entangled (layout x (by simp)) (layout y (by simp)) (layout z (by simp))
      chain.1 chain.2.1
  refine ⟨isChain_nearby n, rounded, fun clear => ?_⟩
  have agree : ∀ x ∈ nearby n, ∀ y ∈ nearby n, alike x y = close x y := fun x first y second =>
    alike_eq_close (layout_of_mem_nearby first) (layout_of_mem_nearby second)
      (clear x first y second)
  constructor
  · refine List.IsChain.imp_of_mem_imp ?_ (isChain_nearby n)
    intro x y first second
    exact (inOrder_congr (agree x first y second)).mp
  · rw [← List.Pairwise.iff_of_mem fun {x y} first second =>
      inOrder_congr (n := n) (agree x first y second), rounded]
    refine forall_congr' fun x => forall_congr' fun y => forall_congr' fun z =>
      forall_congr' fun three => ?_
    rw [three] at agree
    rw [Entangled, Entangled, agree x (by simp) y (by simp), agree y (by simp) z (by simp),
      agree x (by simp) z (by simp)]

theorem nearby_twelve : nearby 12 = [⟨9, 3, 3⟩, ⟨16, 4, 4⟩, ⟨15, 3, 5⟩] := by
  decide +kernel

theorem clear_twelve : ∀ x ∈ nearby 12, ∀ y ∈ nearby 12, Clear x y := by
  rw [nearby_twelve]
  simp only [List.mem_cons, List.not_mem_nil, or_false, forall_eq_or_imp, forall_eq, Clear,
    Shape.fraction, margin]
  norm_num [abs_of_pos, abs_of_neg]

theorem nearby_inOrder_twelve : (nearby 12).Pairwise (InOrder close 12) := by
  refine ((nearby_inOrder_iff 12).2.2 clear_twelve).2.mpr fun x y z three => ?_
  rw [nearby_twelve] at three
  simp only [List.cons.injEq, and_true] at three
  obtain ⟨rfl, rfl, rfl⟩ := three
  simp only [Entangled, close, Shape.fraction]
  norm_num

/-- Around 39398 the tolerance joins the first grid to the second and the second to the third, and
    so the least square of the three is listed first, whether or not ratios are rounded. -/
theorem nearby_not_inOrder :
    ¬ (nearby 39398).Pairwise (InOrder close 39398) ∧
      ¬ (nearby 39398).Pairwise (InOrder alike 39398) := by
  have squarer : Shape.fraction ⟨39396, 196, 201⟩ < Shape.fraction ⟨39402, 198, 199⟩ := by
    rw [Shape.fraction, Shape.fraction]
    norm_num
  have disordered : ∀ equal : Shape → Shape → Bool,
      equal ⟨39396, 196, 201⟩ ⟨39402, 198, 199⟩ = false →
        ¬ (nearby 39398).Pairwise (InOrder equal 39398) := by
    intro equal apart ordered
    rw [nearby_chained, List.pairwise_cons] at ordered
    exact lt_asymm squarer ((ordered.1 ⟨39402, 198, 199⟩ (by simp)).2 apart)
  have apart : close ⟨39396, 196, 201⟩ ⟨39402, 198, 199⟩ = false := by
    simp only [close, Shape.fraction]
    norm_num
  exact ⟨disordered close apart, disordered alike (by decide +kernel)⟩

end ClusterPrep.Grid
