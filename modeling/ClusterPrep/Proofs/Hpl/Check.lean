import ClusterPrep.Hpl.Check
import ClusterPrep.Proofs.Attempt
import ClusterPrep.Proofs.Number.ReadBack

set_option autoImplicit false

/-
  What a configuration is like in which nothing is wrong: the check of every field finds nothing,
  and each check finds nothing exactly in values of the kind that it looks for.
-/
namespace ClusterPrep.Hpl

section

variable {c : Config} {available : Value}

theorem nonNumbers_eq_nil_iff {vs : List Value} :
    nonNumbers vs = .ok [] ↔ ∀ v ∈ vs, isNumber v = .ok true := by
  induction vs with
  | nil => simp [nonNumbers, pure, Except.pure]
  | cons v vs ih =>
      rw [nonNumbers, List.forall_mem_cons, ← ih]
      cases number : isNumber v with
      | error e => simp [bind, Except.bind]
      | ok proper =>
          cases rest : nonNumbers vs with
          | error e => simp [bind, Except.bind]
          | ok bad => cases proper <;> simp [bind, Except.bind, pure, Except.pure]

/-- Nothing is wrong with a list field if it has values, all of them numbers, and none of them zero
    or less where they are to be positive. -/
theorem multiProblems_eq_nil_iff {f : Multi} :
    multiProblems c f = .ok [] ↔
      c.multi f ≠ [] ∧ (∀ v ∈ c.multi f, isNumber v = .ok true) ∧
        (f.isPositive = true → ∀ v ∈ c.multi f, isAtMostZero v = false) := by
  rw [multiProblems]
  by_cases empty : c.multi f = []
  · simp [empty, pure, Except.pure]
  · have filled : (c.multi f).isEmpty = false := by simpa using empty
    rw [filled, ← nonNumbers_eq_nil_iff]
    cases bad : nonNumbers (c.multi f) with
    | error e => simp [bind, Except.bind]
    | ok vs =>
        cases vs with
        | nil =>
            cases positive : f.isPositive <;>
              simp [bind, Except.bind, pure, Except.pure, empty]
        | cons v vs =>
            cases shown : v.literal <;> simp [shown, bind, Except.bind, pure, Except.pure]

/-- Nothing is wrong with a single field if it is missing or a number. -/
theorem singleProblems_eq_nil_iff {f : Single} :
    singleProblems c f = .ok [] ↔ c.single f = .null ∨ isNumber (c.single f) = .ok true := by
  have present (v : Value) (there : v ≠ .null) :
      (do return if ← isNumber v then [] else [f.label ++ " is not a number"] : Attempt (List Text))
        = .ok [] ↔ v = .null ∨ isNumber v = .ok true := by
    cases number : isNumber v with
    | error e => simp [bind, Except.bind, there]
    | ok proper => cases proper <;> simp [bind, Except.bind, pure, Except.pure, there]
  rw [singleProblems]
  cases held : c.single f with
  | null => simp [pure, Except.pure]
  | _ => exact present _ (by simp)

theorem pairingProblems_eq_nil_iff : pairingProblems c = [] ↔ c.ps.length = c.qs.length := by
  rw [pairingProblems]
  split
  · rename_i paired
    simp [paired]
  · rename_i unpaired
    simp [unpaired]

theorem mem_multis (f : Multi) : f ∈ multis := by
  cases f <;> decide

theorem mem_numericSingles {f : Single} : f ∈ numericSingles ↔ f ≠ .outFile := by
  cases f <;> decide

/-- Checks that are made one after the other find nothing if each of them finds nothing. -/
theorem flatten_eq_nil_iff_of_mapM {ι : Type} {check : ι → Attempt (List Text)} {items : List ι}
    {found : List (List Text)} (all : items.mapM check = .ok found) :
    found.flatten = [] ↔ ∀ i ∈ items, check i = .ok [] := by
  rw [List.flatten_eq_nil_iff]
  constructor
  · intro none i member
    obtain ⟨problems, inside, made⟩ := Attempt.exists_of_mapM all member
    rw [made, none problems inside]
  · intro none problems inside
    obtain ⟨i, member, made⟩ := Attempt.exists_of_mem_mapM all inside
    rw [none i member] at made
    exact (Except.ok.inj made).symm

/-- Nothing is wrong with a configuration if nothing is wrong with any field, P and Q are paired,
    and no grid is too great for the processes that are available. -/
theorem problems_eq_nil_iff :
    problems c available = .ok [] ↔
      (∀ f, multiProblems c f = .ok []) ∧ c.ps.length = c.qs.length ∧
        (∀ f, f ≠ .outFile → singleProblems c f = .ok []) ∧
        (available = .null ∨ gridsProblems available c = .ok []) := by
  rw [problems]
  cases lists : multis.mapM (multiProblems c) with
  | error e =>
      have failed : ¬ ∀ f, multiProblems c f = .ok [] := by
        intro none
        rw [Attempt.mapM_eq_ok fun f _ => none f] at lists
        cases lists
      simp [bind, Except.bind, failed]
  | ok ls =>
      have lists := flatten_eq_nil_iff_of_mapM lists
      cases singles : numericSingles.mapM (singleProblems c) with
      | error e =>
          have failed : ¬ ∀ f, f ≠ .outFile → singleProblems c f = .ok [] := by
            intro none
            rw [Attempt.mapM_eq_ok fun f member => none f (mem_numericSingles.mp member)] at singles
            cases singles
          simp [bind, Except.bind, failed]
      | ok ss =>
          have singles := flatten_eq_nil_iff_of_mapM singles
          simp only [mem_multis, forall_true_left] at lists
          simp only [mem_numericSingles] at singles
          rw [← lists, ← singles, ← pairingProblems_eq_nil_iff]
          simp only [bind, Except.bind]
          generalize ls.flatten = ls, ss.flatten = ss
          cases available with
          | null => simp [pure, Except.pure]
          | _ => cases grids : gridsProblems _ c <;> simp [grids, pure, Except.pure]

end

/-! ### Checks that come to an end -/

theorem exists_nonNumbers {vs : List Value} (each : ∀ v ∈ vs, ∃ proper, isNumber v = .ok proper) :
    ∃ bad, nonNumbers vs = .ok bad ∧ ∀ v ∈ bad, v ∈ vs := by
  induction vs with
  | nil => exact ⟨[], rfl, by simp⟩
  | cons v vs ih =>
      obtain ⟨proper, number⟩ := each v (by simp)
      obtain ⟨bad, rest, among⟩ := ih fun w member => each w (List.mem_cons_of_mem v member)
      rw [nonNumbers, number, rest]
      cases proper with
      | true => exact ⟨bad, rfl, fun w member => List.mem_cons_of_mem v (among w member)⟩
      | false =>
          refine ⟨v :: bad, rfl, fun w member => ?_⟩
          rcases List.mem_cons.mp member with rfl | member
          · exact List.mem_cons_self
          · exact List.mem_cons_of_mem v (among w member)

section

variable {c : Config}

theorem exists_multiProblems {f : Multi}
    (numbers : ∀ v ∈ c.multi f, ∃ proper, isNumber v = .ok proper)
    (literals : ∀ v ∈ c.multi f, ∃ s, v.literal = .ok s) :
    ∃ found, multiProblems c f = .ok found := by
  obtain ⟨bad, made, among⟩ := exists_nonNumbers numbers
  rw [multiProblems]
  split
  · exact ⟨_, rfl⟩
  · rw [made]
    cases bad with
    | nil =>
        simp only [bind, Except.bind]
        split <;> exact ⟨_, rfl⟩
    | cons v bad =>
        obtain ⟨s, shown⟩ := literals v (among v List.mem_cons_self)
        simp only [bind, Except.bind, shown]
        exact ⟨_, rfl⟩

theorem exists_singleProblems {f : Single} (number : ∃ proper, isNumber (c.single f) = .ok proper) :
    ∃ found, singleProblems c f = .ok found := by
  obtain ⟨proper, number⟩ := number
  rw [singleProblems]
  cases held : c.single f with
  | null => exact ⟨_, rfl⟩
  | _ =>
      rw [held] at number
      dsimp only
      rw [number]
      exact ⟨_, rfl⟩

/-- What the checks found, in order. -/
theorem problems_eq_ok {k : Int} {ls ss : List (List Text)} {gs : List Text}
    (lists : multis.mapM (multiProblems c) = .ok ls)
    (singles : numericSingles.mapM (singleProblems c) = .ok ss)
    (grids : gridsProblems (.int k) c = .ok gs) :
    problems c (.int k) = .ok (ls.flatten ++ pairingProblems c ++ ss.flatten ++ gs) := by
  rw [problems, lists, singles]
  simp only [bind, Except.bind, grids]
  rfl

/-- The check comes to an end if every value can be told from a number and be shown, and the grids
    can be checked. -/
theorem exists_problems {available : Value}
    (numbers : ∀ f, ∀ v ∈ c.multi f, ∃ proper, isNumber v = .ok proper)
    (literals : ∀ f, ∀ v ∈ c.multi f, ∃ s, v.literal = .ok s)
    (singles : ∀ f, f ≠ .outFile → ∃ proper, isNumber (c.single f) = .ok proper)
    (grids : available = .null ∨ ∃ found, gridsProblems available c = .ok found) :
    ∃ found, problems c available = .ok found := by
  obtain ⟨ls, lists⟩ := Attempt.exists_mapM_eq_ok fun f (_ : f ∈ multis) =>
    exists_multiProblems (numbers f) (literals f)
  obtain ⟨ss, singles⟩ := Attempt.exists_mapM_eq_ok fun f (member : f ∈ numericSingles) =>
    exists_singleProblems (singles f (mem_numericSingles.mp member))
  rw [problems, lists, singles]
  rcases grids with rfl | ⟨found, checked⟩
  · exact ⟨_, rfl⟩
  · cases available with
    | null => exact ⟨_, rfl⟩
    | _ =>
        simp only [bind, Except.bind, checked]
        exact ⟨_, rfl⟩

end

/-! ### Checks that came to an end -/

theorem isNumber_of_nonNumbers {vs bad : List Value} (made : nonNumbers vs = .ok bad) :
    ∀ v ∈ vs, ∃ proper, isNumber v = .ok proper := by
  induction vs generalizing bad with
  | nil => simp
  | cons v vs ih =>
      obtain ⟨proper, number, made⟩ := Attempt.exists_of_bind made
      obtain ⟨others, rest, -⟩ := Attempt.exists_of_bind made
      exact List.forall_mem_cons.mpr ⟨⟨proper, number⟩, ih rest⟩

section

variable {c : Config}

theorem isNumber_of_multiProblems {f : Multi} {found : List Text}
    (made : multiProblems c f = .ok found) :
    ∀ v ∈ c.multi f, ∃ proper, isNumber v = .ok proper := by
  rw [multiProblems] at made
  split at made
  · rename_i empty
    rw [List.isEmpty_iff.mp empty]
    simp
  · obtain ⟨bad, told, -⟩ := Attempt.exists_of_bind made
    exact isNumber_of_nonNumbers told

theorem isNumber_of_singleProblems {f : Single} {found : List Text}
    (made : singleProblems c f = .ok found) : ∃ proper, isNumber (c.single f) = .ok proper := by
  rw [singleProblems] at made
  split at made
  · rename_i missing
    exact ⟨false, by rw [missing]; rfl⟩
  · obtain ⟨proper, number, -⟩ := Attempt.exists_of_bind made
    exact ⟨proper, number⟩

/-- A check that came to an end told every value from a number, but for the output file. -/
theorem isNumber_of_problems {available : Value} {found : List Text}
    (made : problems c available = .ok found) :
    (∀ f, ∀ v ∈ c.multi f, ∃ proper, isNumber v = .ok proper) ∧
      ∀ f, f ≠ .outFile → ∃ proper, isNumber (c.single f) = .ok proper := by
  obtain ⟨ls, lists, made⟩ := Attempt.exists_of_bind made
  obtain ⟨ss, singles, -⟩ := Attempt.exists_of_bind made
  constructor
  · intro f
    obtain ⟨l, -, checked⟩ := Attempt.exists_of_mapM lists (mem_multis f)
    exact isNumber_of_multiProblems checked
  · intro f other
    obtain ⟨l, -, checked⟩ := Attempt.exists_of_mapM singles (mem_numericSingles.mpr other)
    exact isNumber_of_singleProblems checked

end

/-! ### Quantities -/

/-- A number that can be computed with: a whole number within the reals, or any real. -/
def IsQuantity : Value → Prop
  | .int i => (Binary64.ofInt i).isFinite = true
  | .real _ => True
  | _ => False

instance : DecidablePred IsQuantity
  | .int i => inferInstanceAs (Decidable ((Binary64.ofInt i).isFinite = true))
  | .real _ => isTrue trivial
  | .null | .bool _ | .text _ | .moment _ | .list _ | .table _ => isFalse id

theorem shown_int {i : Int} (short : (Numeral.ofNat i.natAbs).length ≤ Numeral.maxDigits) :
    (Value.int i).shown = .ok (Numeral.ofInt i) :=
  Numeral.writeInt_eq_ok i short

theorem shown_real (x : Binary64) : (Value.real x).shown = .ok x.text := rfl

namespace IsQuantity

variable {v : Value} (quantity : IsQuantity v)
include quantity

theorem exists_isNumber : ∃ proper, isNumber v = .ok proper := by
  cases v with
  | int i =>
      refine ⟨true, ?_⟩
      rw [isNumber, Binary64.ofInt?, Binary64.unlessInfinite_of_isFinite quantity]
      rfl
  | real x => exact ⟨_, rfl⟩
  | _ => exact absurd quantity id

theorem exists_shown : ∃ s, v.shown = .ok s := by
  cases v with
  | int i => exact ⟨_, shown_int (Binary64.length_ofNat_of_isFinite quantity)⟩
  | real x => exact ⟨_, shown_real x⟩
  | _ => exact absurd quantity id

theorem exists_literal : ∃ s, v.literal = .ok s := by
  obtain ⟨s, shown⟩ := quantity.exists_shown
  cases v with
  | int i => exact ⟨s, shown⟩
  | real x => exact ⟨s, shown⟩
  | _ => exact absurd quantity id

/-- A quantity is a number that is within the reals. -/
theorem exists_toReal : ∃ n x, v.number? = some n ∧ Value.ofNumber n = v ∧ n.toReal = .ok x := by
  cases v with
  | int i => exact ⟨.int i, _, rfl, rfl, Binary64.unlessInfinite_of_isFinite quantity _⟩
  | real x => exact ⟨.real x, x, rfl, rfl, rfl⟩
  | _ => exact absurd quantity id

end IsQuantity

theorem natAbs_mul_lt {i j : Int} {k : Nat} (first : i.natAbs < 2 ^ k) (second : j.natAbs < 2 ^ k) :
    (i * j).natAbs < 2 ^ (k + k) := by
  rw [Int.natAbs_mul, pow_add]
  exact Nat.mul_lt_mul'' first second

/-- A product of two whole numbers within the reals is not too long to be written. -/
theorem length_ofNat_mul {i j : Int} (first : i.natAbs < 2 ^ 1024) (second : j.natAbs < 2 ^ 1024) :
    (Numeral.ofNat (i * j).natAbs).length ≤ Numeral.maxDigits := by
  have digits : (2 : Nat) ^ (1024 + 1024) ≤ 10 ^ Numeral.maxDigits := by decide +kernel
  exact (Numeral.length_ofNat_le (by decide)).mpr
    (Nat.lt_of_lt_of_le (natAbs_mul_lt first second) digits)

theorem mul_of_toReal {a b : Number} {x y : Binary64} (first : a.toReal = .ok x)
    (second : b.toReal = .ok y) :
    (∃ i j, a = .int i ∧ b = .int j) ∨ a.mul b = .ok (.real (x.mul y)) := by
  have mixed (whole : ∀ i j, a = .int i → b = .int j → False) :
      a.mul b = .ok (.real (x.mul y)) := by
    rw [Number.mul.eq_2 a b whole, first, second]
    rfl
  cases a with
  | real x' => exact Or.inr (mixed fun i j same _ => nomatch same)
  | int i =>
      cases b with
      | real y' => exact Or.inr (mixed fun i j _ same => nomatch same)
      | int j => exact Or.inl ⟨i, j, rfl, rfl⟩

/-- The processes that a grid of two quantities needs can be counted and shown. -/
theorem exists_mul {v w : Value} (first : IsQuantity v) (second : IsQuantity w) :
    ∃ a b n s, v.number? = some a ∧ w.number? = some b ∧ a.mul b = .ok n ∧
      (Value.ofNumber n).shown = .ok s := by
  obtain ⟨a, x, left, rfl, real⟩ := first.exists_toReal
  obtain ⟨b, y, right, rfl, real'⟩ := second.exists_toReal
  rcases mul_of_toReal real real' with ⟨i, j, rfl, rfl⟩ | product
  · have short := length_ofNat_mul (Binary64.natAbs_lt_of_ofInt? real)
      (Binary64.natAbs_lt_of_ofInt? real')
    exact ⟨.int i, .int j, .int (i * j), _, rfl, rfl, rfl, shown_int short⟩
  · exact ⟨a, b, _, _, left, right, product, shown_real _⟩

/-- A grid of two quantities can be checked against a number of processes that can be shown. -/
theorem exists_gridProblems {p q : Value} {k : Int} (first : IsQuantity p) (second : IsQuantity q)
    (countable : ∃ s, (Value.int k).shown = .ok s) :
    ∃ found, gridProblems (.int k) p q = .ok found := by
  obtain ⟨proper, left⟩ := first.exists_isNumber
  obtain ⟨proper', right⟩ := second.exists_isNumber
  obtain ⟨a, b, n, s, numeric, numeric', product, shown⟩ := exists_mul first second
  obtain ⟨t, rows⟩ := first.exists_shown
  obtain ⟨u, columns⟩ := second.exists_shown
  obtain ⟨x, available⟩ := countable
  have needed : (Value.ofNumber n).number? = some n := by cases n <;> rfl
  have limit : (Value.int k).number? = some (.int k) := rfl
  rw [gridProblems, left, right]
  cases proper with
  | false => exact ⟨_, rfl⟩
  | true =>
      cases proper' with
      | false => exact ⟨_, rfl⟩
      | true =>
          dsimp only [bind, Except.bind]
          rw [numeric, numeric']
          dsimp only
          rw [product]
          dsimp only
          rw [needed, limit, rows, columns, shown, available]
          simp only [Bool.not_true, Bool.false_eq_true, ↓reduceIte]
          split
          · exact ⟨_, rfl⟩
          · exact ⟨_, rfl⟩

section

variable {c : Config} (quantities : ∀ f, ∀ v ∈ c.multi f, IsQuantity v)
include quantities

theorem exists_gridsProblems {k : Int} (countable : ∃ s, (Value.int k).shown = .ok s) :
    ∃ found, gridsProblems (.int k) c = .ok found := by
  obtain ⟨found, checked⟩ := Attempt.exists_mapM_eq_ok
    fun (pq : Value × Value) (member : pq ∈ c.ps.zip c.qs) =>
      exists_gridProblems (quantities .ps pq.1 (List.of_mem_zip member).1)
        (quantities .qs pq.2 (List.of_mem_zip member).2) countable
  rw [gridsProblems, checked]
  exact ⟨_, rfl⟩

/-- A configuration of quantities can be checked for any number of processes that can be shown. -/
theorem exists_problems_of_quantities
    (singles : ∀ f, f ≠ .outFile → c.single f = .null ∨ IsQuantity (c.single f))
    {available : Value}
    (countable : available = .null ∨ ∃ k s, available = .int k ∧ available.shown = .ok s) :
    ∃ found, problems c available = .ok found := by
  refine exists_problems (fun f v member => (quantities f v member).exists_isNumber)
    (fun f v member => (quantities f v member).exists_literal) (fun f other => ?_) ?_
  · rcases singles f other with missing | quantity
    · exact ⟨false, by rw [missing]; rfl⟩
    · exact quantity.exists_isNumber
  · rcases countable with missing | ⟨k, s, rfl, shown⟩
    · exact Or.inl missing
    · exact Or.inr (exists_gridsProblems quantities ⟨s, shown⟩)

end

end ClusterPrep.Hpl
