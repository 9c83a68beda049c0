import ClusterPrep.Order.Insertion
import Mathlib.Data.List.Chain

set_option autoImplicit false

/-
  What sorting gives for a relation that need not be transitive. All elements are kept, and of two
  neighbours the second never belongs before the first. For that it is enough that no two elements
  belong before each other: a run that is turned round, and the element after the place that was
  found for another, stand the right way by this alone.
-/
namespace ClusterPrep.Order

variable {α : Type}

/-- Of two neighbours the second does not belong before the first. -/
def Ordered (lt : α → α → Bool) (xs : List α) : Prop :=
  xs.IsChain fun a b => lt b a = false

/-- No two elements belong before each other. -/
def Asymmetric (lt : α → α → Bool) : Prop := ∀ a b, lt a b = true → lt b a = false

variable {lt : α → α → Bool}

/-! ### The first run -/

theorem extend_append (keep : α → α → Bool) (last : α) (xs : List α) :
    (extend keep last xs).1 ++ (extend keep last xs).2 = xs := by
  induction xs generalizing last with
  | nil => rfl
  | cons x xs ih =>
      rw [extend]
      by_cases kept : keep last x = true
      · simp only [kept, ↓reduceIte, List.cons_append, ih]
      · simp only [kept, Bool.false_eq_true, ↓reduceIte, List.nil_append]

theorem isChain_extend (keep : α → α → Bool) (last : α) (xs : List α) :
    (last :: (extend keep last xs).1).IsChain fun a b => keep a b = true := by
  induction xs generalizing last with
  | nil => exact .singleton last
  | cons x xs ih =>
      rw [extend]
      by_cases kept : keep last x = true
      · simp only [kept, ↓reduceIte]
        exact .cons_cons kept (ih x)
      · simp only [kept, Bool.false_eq_true, ↓reduceIte]
        exact .singleton last

theorem firstRun_perm (lt : α → α → Bool) (xs : List α) :
    ((firstRun lt xs).1 ++ (firstRun lt xs).2).Perm xs := by
  rcases xs with _ | ⟨x, _ | ⟨y, rest⟩⟩
  · exact .refl _
  · exact .refl _
  · rw [firstRun]
    by_cases falls : lt y x = true
    · simp only [falls, ↓reduceIte]
      have turned :=
        (List.reverse_perm (x :: y :: (extend (fun a b => lt b a) y rest).1)).append_right
        (extend (fun a b => lt b a) y rest).2
      rwa [List.cons_append, List.cons_append, extend_append] at turned
    · simp only [falls, Bool.false_eq_true, ↓reduceIte, List.cons_append, extend_append]
      exact .refl _

theorem ordered_firstRun (asymmetric : Asymmetric lt) (xs : List α) :
    Ordered lt (firstRun lt xs).1 := by
  rcases xs with _ | ⟨x, _ | ⟨y, rest⟩⟩
  · exact .nil
  · exact .singleton x
  · rw [firstRun]
    by_cases falls : lt y x = true
    · simp only [falls, ↓reduceIte]
      rw [Ordered, List.isChain_reverse]
      have run := isChain_extend (fun a b => lt b a) y rest
      exact List.IsChain.imp (fun a b below => asymmetric b a below) (.cons_cons falls run)
    · have rises : lt y x = false := eq_false_of_ne_true falls
      simp only [rises, Bool.false_eq_true, ↓reduceIte]
      have run := isChain_extend (fun a b => !lt b a) y rest
      exact .cons_cons rises (List.IsChain.imp (fun a b above => Bool.not_eq_true' _ ▸ above) run)

/-! ### Insertion -/

/-- Where the search ends, the element before does not belong behind `x`, and the one after does. -/
structure Fits (lt : α → α → Bool) (x : α) (sorted : List α) (lo hi i : Nat) : Prop where
  within : lo ≤ i ∧ i ≤ hi
  before : lo < i → ∃ y, sorted[i - 1]? = some y ∧ lt x y = false
  after : i < hi → ∃ y, sorted[i]? = some y ∧ lt x y = true

/-- The search halves its stretch, so that it ends before its bound is used up. -/
theorem fits_place (lt : α → α → Bool) (x : α) (sorted : List α) (fuel lo hi : Nat)
    (le : lo ≤ hi) (inside : hi ≤ sorted.length) (enough : hi - lo < fuel) :
    Fits lt x sorted lo hi (place lt x sorted fuel lo hi) := by
  induction fuel generalizing lo hi with
  | zero => omega
  | succ fuel ih =>
      rw [place]
      by_cases wide : lo < hi
      · obtain ⟨mid, middle⟩ : ∃ mid, mid = lo + (hi - lo) / 2 := ⟨_, rfl⟩
        have there : mid < sorted.length := by omega
        have found : sorted[mid]? = some sorted[mid] := List.getElem?_eq_getElem there
        simp only [wide, ↓reduceIte, ← middle, found]
        by_cases less : lt x sorted[mid] = true
        · rw [if_pos less]
          obtain ⟨within, before, after⟩ := ih lo mid (by omega) (by omega) (by omega)
          refine ⟨by omega, before, fun _ => ?_⟩
          by_cases last : place lt x sorted fuel lo mid = mid
          · rw [last]
            exact ⟨_, found, less⟩
          · exact after (by omega)
        · rw [if_neg less]
          obtain ⟨within, before, after⟩ := ih (mid + 1) hi (by omega) inside (by omega)
          refine ⟨by omega, fun _ => ?_, after⟩
          by_cases first : place lt x sorted fuel (mid + 1) hi = mid + 1
          · rw [first, Nat.add_sub_cancel]
            exact ⟨_, found, eq_false_of_ne_true less⟩
          · exact before (by omega)
      · rw [if_neg wide]
        exact ⟨⟨Nat.le_refl lo, le⟩, fun below => absurd below (Nat.lt_irrefl lo),
          fun above => absurd above wide⟩

theorem insert_perm (lt : α → α → Bool) (sorted : List α) (x : α) :
    (insert lt sorted x).Perm (x :: sorted) := by
  have whole := List.take_append_drop (place lt x sorted (sorted.length + 1) 0 sorted.length) sorted
  calc
    insert lt sorted x = _ ++ x :: _ := rfl
    List.Perm _ (x :: (_ ++ _)) := List.perm_middle
    _ = x :: sorted := by rw [whole]

theorem ordered_insert (asymmetric : Asymmetric lt) {sorted : List α}
    (ordered : Ordered lt sorted) (x : α) : Ordered lt (insert lt sorted x) := by
  obtain ⟨within, before, after⟩ := fits_place lt x sorted (sorted.length + 1) 0
    sorted.length (Nat.zero_le _) (Nat.le_refl _) (by omega)
  simp only [insert]
  generalize place lt x sorted (sorted.length + 1) 0 sorted.length = i at within before after ⊢
  refine List.isChain_append.mpr ⟨ordered.take i, List.isChain_cons.mpr ⟨?_, ordered.drop i⟩, ?_⟩
  · intro y first
    rw [List.head?_drop] at first
    obtain ⟨inside, -⟩ := List.getElem?_eq_some_iff.mp first
    obtain ⟨y', same, less⟩ := after inside
    rw [same] at first
    cases first
    exact asymmetric x y less
  · intro y last x' head
    cases head
    rw [List.getLast?_take] at last
    by_cases empty : i = 0
    · rw [if_pos empty] at last
      cases last
    · obtain ⟨y', same, notLess⟩ := before (by omega)
      rw [if_neg empty, same, Option.some_or] at last
      cases last
      exact notLess

/-! ### Sorting -/

theorem foldl_insert_perm (lt : α → α → Bool) (sorted rest : List α) :
    (rest.foldl (insert lt) sorted).Perm (sorted ++ rest) := by
  induction rest generalizing sorted with
  | nil => rw [List.append_nil, List.foldl_nil]
  | cons x rest ih =>
      calc
        List.Perm _ (insert lt sorted x ++ rest) := ih _
        List.Perm _ (x :: sorted ++ rest) := (insert_perm lt sorted x).append_right rest
        List.Perm _ (sorted ++ x :: rest) := List.perm_middle.symm

theorem ordered_foldl_insert (asymmetric : Asymmetric lt) {sorted : List α}
    (ordered : Ordered lt sorted) (rest : List α) :
    Ordered lt (rest.foldl (insert lt) sorted) := by
  induction rest generalizing sorted with
  | nil => exact ordered
  | cons x rest ih => exact ih (ordered_insert asymmetric ordered x)

/-- Sorting loses and adds nothing. -/
theorem sort_perm (lt : α → α → Bool) (xs : List α) : (sort lt xs).Perm xs :=
  (foldl_insert_perm lt _ _).trans (firstRun_perm lt xs)

/-- Sorting leaves no two neighbours the wrong way round. -/
theorem ordered_sort (asymmetric : Asymmetric lt) (xs : List α) : Ordered lt (sort lt xs) :=
  ordered_foldl_insert asymmetric (ordered_firstRun asymmetric xs) _

end ClusterPrep.Order
