import ClusterPrep.Proofs.Hpl.Check
import ClusterPrep.Proofs.Number.Product

set_option autoImplicit false

/-
  What it is worth that nothing was found to be wrong. The checks skip some values: a list with a
  value that is no number is not tested for zeros, a grid of such values is not counted, and P and Q
  are paired up to the shorter list. Each of these is only skipped where something else is wrong, so
  that together the checks find nothing exactly in configurations that are sane.
-/
namespace ClusterPrep.Hpl

/-- A number proper: of either kind, but no truth value, and nothing that is not a number. -/
def IsProper : Value → Prop
  | .int _ => True
  | .real x => x ≠ .nan
  | _ => False

/-- A value that counts as a number above zero. -/
def IsAboveZero (v : Value) : Prop := ∃ n, v.number? = some n ∧ n.IsPositive

/-- The processes that a grid needs are within a number of processes. -/
def GridFits (k : Int) (p q : Value) : Prop :=
  ∃ a b n, p.number? = some a ∧ q.number? = some b ∧ a.mul b = .ok n ∧ n.le (.int k) = true

/-- A configuration that can be run, on a number of processes if one is given. -/
structure Sane (c : Config) (available : Value) : Prop where
  nonempty : ∀ f, c.multi f ≠ []
  proper : ∀ f, ∀ v ∈ c.multi f, IsProper v
  above : ∀ f ∈ [Multi.ns, .nbs, .ps, .qs, .nbmins, .ndivs], ∀ v ∈ c.multi f, IsAboveZero v
  paired : c.ps.length = c.qs.length
  single : ∀ f, f ≠ .outFile → c.single f = .null ∨ IsProper (c.single f)
  fits : ∀ k, available = .int k → ∀ pq ∈ c.ps.zip c.qs, GridFits k pq.1 pq.2

/-! ### Values -/

section

variable {v : Value}

theorem isNumber_eq_true_iff (told : ∃ proper, isNumber v = .ok proper) :
    isNumber v = .ok true ↔ IsProper v := by
  obtain ⟨proper, told⟩ := told
  cases v with
  | int i =>
      obtain ⟨x, within, done⟩ := Attempt.exists_of_bind told
      exact iff_of_true (by rw [isNumber, within]; rfl) trivial
  | real x => simp [isNumber, IsProper, pure, Except.pure]
  | _ => exact iff_of_false (by simp [isNumber, pure, Except.pure]) id

theorem IsProper.exists_number (proper : IsProper v) :
    ∃ n, v.number? = some n ∧ n ≠ .real .nan := by
  cases v with
  | int i => exact ⟨.int i, rfl, by simp⟩
  | real x => exact ⟨.real x, rfl, fun same => proper (Number.real.inj same)⟩
  | _ => exact absurd proper id

theorem isAtMostZero_eq_false_iff (proper : IsProper v) :
    isAtMostZero v = false ↔ IsAboveZero v := by
  obtain ⟨n, number, some⟩ := proper.exists_number
  simp only [isAtMostZero, IsAboveZero, number, Option.some.injEq, exists_eq_left']
  exact (Number.isPositive_iff some).symm

end

theorem isPositive_iff_mem {f : Multi} :
    f.isPositive = true ↔ f ∈ [Multi.ns, .nbs, .ps, .qs, .nbmins, .ndivs] := by
  cases f <;> decide

/-! ### Grids -/

section

variable {k : Int} {p q : Value}

/-- What is said of a grid that needs too many processes. -/
def overfull (k : Int) (p q needed : Value) : Attempt (List Text) := do
  return ["Grid " ++ (← p.shown) ++ "x" ++ (← q.shown) ++ " needs " ++ (← needed.shown) ++
    " processes, only " ++ (← (Value.int k).shown) ++ " available"]

theorem overfull_ne_nil (needed : Value) : overfull k p q needed ≠ .ok [] := by
  intro silent
  obtain ⟨_, -, silent⟩ := Attempt.exists_of_bind silent
  obtain ⟨_, -, silent⟩ := Attempt.exists_of_bind silent
  obtain ⟨_, -, silent⟩ := Attempt.exists_of_bind silent
  obtain ⟨_, -, silent⟩ := Attempt.exists_of_bind silent
  cases silent

/-- A grid of numbers is too great if its product is above the number of processes. -/
theorem gridProblems_of_numbers {a b : Number} (rows : isNumber p = .ok true)
    (columns : isNumber q = .ok true) (first : p.number? = some a) (second : q.number? = some b) :
    gridProblems (.int k) p q = (do
      let n ← a.mul b
      if (Number.int k).lt n then overfull k p q (.ofNumber n) else return []) := by
  rw [gridProblems, rows, columns]
  dsimp only [bind, Except.bind]
  rw [first, second]
  dsimp only
  cases a.mul b with
  | error e => rfl
  | ok n => cases n <;> rfl

/-- Nothing is wrong with a grid of numbers above zero if it fits. -/
theorem gridProblems_eq_nil_iff (rows : isNumber p = .ok true) (columns : isNumber q = .ok true)
    (left : IsAboveZero p) (right : IsAboveZero q) :
    gridProblems (.int k) p q = .ok [] ↔ GridFits k p q := by
  obtain ⟨a, first, left⟩ := left
  obtain ⟨b, second, right⟩ := right
  rw [gridProblems_of_numbers rows columns first second, GridFits]
  simp only [first, second, Option.some.injEq, exists_and_left, exists_eq_left']
  cases product : a.mul b with
  | error e => simp [bind, Except.bind]
  | ok n =>
      have some := Number.mul_ne_nan left right product
      simp only [bind, Except.bind, Except.ok.injEq, exists_eq_left',
        Number.le_eq_not_lt some (by simp : Number.int k ≠ .real .nan), Bool.not_eq_true']
      cases (Number.int k).lt n with
      | false => exact iff_of_true rfl rfl
      | true => exact iff_of_false (overfull_ne_nil _) (by simp)

theorem gridsProblems_eq_nil_iff {c : Config} {available : Value} :
    gridsProblems available c = .ok [] ↔
      ∀ pq ∈ c.ps.zip c.qs, gridProblems available pq.1 pq.2 = .ok [] := by
  rw [gridsProblems]
  cases checked : (c.ps.zip c.qs).mapM fun pq => gridProblems available pq.1 pq.2 with
  | error e =>
      have failed : ¬ ∀ pq ∈ c.ps.zip c.qs, gridProblems available pq.1 pq.2 = .ok [] := by
        intro none
        rw [Attempt.mapM_eq_ok none] at checked
        cases checked
      exact iff_of_false (by simp [bind, Except.bind]) failed
  | ok found =>
      rw [← flatten_eq_nil_iff_of_mapM checked]
      simp [bind, Except.bind, pure, Except.pure]

end

/-! ### The whole configuration -/

/-- **The checks are sound and complete.** Where they come to an end, for any number of processes or
    none, they have found nothing exactly if the configuration is sane. -/
theorem problems_eq_nil_iff_sane {c : Config} {available : Value} {found : List Text}
    (count : available = .null ∨ ∃ k, available = .int k)
    (checked : problems c available = .ok found) : found = [] ↔ Sane c available := by
  obtain ⟨multi, single⟩ := isNumber_of_problems checked
  have silent : found = [] ↔ problems c available = .ok [] := by rw [checked, Except.ok.injEq]
  have proper (f : Multi) (v : Value) (member : v ∈ c.multi f) :
      isNumber v = .ok true ↔ IsProper v := isNumber_eq_true_iff (multi f v member)
  rw [silent, problems_eq_nil_iff]
  constructor
  · rintro ⟨lists, paired, singles, grids⟩
    have list (f : Multi) := multiProblems_eq_nil_iff.mp (lists f)
    have above (f : Multi) (positive : f.isPositive = true) (v : Value) (member : v ∈ c.multi f) :
        IsAboveZero v :=
      (isAtMostZero_eq_false_iff ((proper f v member).mp ((list f).2.1 v member))).mp
        ((list f).2.2 positive v member)
    refine ⟨fun f => (list f).1, fun f v member => (proper f v member).mp ((list f).2.1 v member),
      fun f positive => above f (isPositive_iff_mem.mpr positive), paired, fun f other => ?_, ?_⟩
    · exact (singleProblems_eq_nil_iff.mp (singles f other)).imp_right
        (isNumber_eq_true_iff (single f other)).mp
    · rintro k rfl ⟨p, q⟩ member
      obtain ⟨left, right⟩ := List.of_mem_zip member
      have none := gridsProblems_eq_nil_iff.mp (grids.resolve_left (by simp)) (p, q) member
      exact (gridProblems_eq_nil_iff ((list .ps).2.1 p left) ((list .qs).2.1 q right)
        (above .ps rfl p left) (above .qs rfl q right)).mp none
  · intro sane
    have number (f : Multi) (v : Value) (member : v ∈ c.multi f) : isNumber v = .ok true :=
      (proper f v member).mpr (sane.proper f v member)
    refine ⟨fun f => ?_, sane.paired, fun f other => ?_, ?_⟩
    · refine multiProblems_eq_nil_iff.mpr ⟨sane.nonempty f, number f, fun positive v member => ?_⟩
      exact (isAtMostZero_eq_false_iff (sane.proper f v member)).mpr
        (sane.above f (isPositive_iff_mem.mp positive) v member)
    · exact singleProblems_eq_nil_iff.mpr ((sane.single f other).imp_right
        (isNumber_eq_true_iff (single f other)).mpr)
    · rcases count with missing | ⟨k, rfl⟩
      · exact .inl missing
      · refine .inr (gridsProblems_eq_nil_iff.mpr ?_)
        rintro ⟨p, q⟩ member
        obtain ⟨left, right⟩ := List.of_mem_zip member
        exact (gridProblems_eq_nil_iff (number .ps p left) (number .qs q right)
          (sane.above .ps (by decide) p left) (sane.above .qs (by decide) q right)).mpr
            (sane.fits k rfl (p, q) member)

/-- Infinite values, grids of both kinds of numbers, and a list for the name of the output file,
    which is not checked. -/
def unusual : Config where
  outFile := .list []
  ns := [.real (.inf false), .int 1]
  pmap := .null
  ps := [.int 2, .real (Binary64.ofFraction false 3 2)]
  qs := [.int 3, .int 4]
  threshold := .real (.inf true)
  depths := [.int (-1), .real (Binary64.ofInt 0)]

/-- It is sane on as many processes as its grids need, and on no fewer. -/
theorem problems_eq_nil_iff_sane_unusual :
    (∃ k, Value.int 6 = .int k) ∧ problems unusual (.int 6) = .ok [] ∧ Sane unusual (.int 6) ∧
      ¬ Sane unusual (.int 5) := by
  have passes : (problems unusual (.int 6)).toOption = some [] ∧
      ((problems unusual (.int 5)).toOption.any fun found => !found.isEmpty) = true := by
    decide +kernel
  have silent : problems unusual (.int 6) = .ok [] := Attempt.ok_of_toOption passes.1
  obtain ⟨found, checked, some⟩ := (Option.any_eq_true _ _).mp passes.2
  have short := problems_eq_nil_iff_sane (.inr ⟨5, rfl⟩) (Attempt.ok_of_toOption checked)
  refine ⟨⟨6, rfl⟩, silent, (problems_eq_nil_iff_sane (.inr ⟨6, rfl⟩) silent).mp rfl,
    fun sane => ?_⟩
  rw [short.mpr sane] at some
  cases some

end ClusterPrep.Hpl
