import ClusterPrep.Text.Basic

set_option autoImplicit false

/-
  Sorting a short list by a relation that need not be transitive, so that the way of sorting shows
  in the result: the first run is kept, turned round if it descends, and every later element is put
  into what is sorted so far by binary search, after its equals.
-/
namespace ClusterPrep.Order

variable {α : Type}

/-- The longest beginning in which every element follows `last`, or the element before it, as
    `keep` demands, and what comes after it. -/
def extend (keep : α → α → Bool) (last : α) : List α → List α × List α
  | [] => ([], [])
  | x :: rest =>
    if keep last x then
      let r := extend keep x rest
      (x :: r.1, r.2)
    else ([], x :: rest)

/-- The first run, ascending, and what comes after it. A run that descends strictly is turned
    round. -/
def firstRun (lt : α → α → Bool) : List α → List α × List α
  | [] => ([], [])
  | [x] => ([x], [])
  | x :: y :: rest =>
    if lt y x then
      let (run, rest) := extend (fun a b => lt b a) y rest
      ((x :: y :: run).reverse, rest)
    else
      let (run, rest) := extend (fun a b => !lt b a) y rest
      (x :: y :: run, rest)

/-- The place for `x` in `sorted`, found by halving the stretch from `lo` to `hi`. The first
    argument bounds the number of halvings. -/
def place (lt : α → α → Bool) (x : α) (sorted : List α) : Nat → Nat → Nat → Nat
  | 0, lo, _ => lo
  | k + 1, lo, hi =>
    if lo < hi then
      let mid := lo + (hi - lo) / 2
      match sorted[mid]? with
      | some y => if lt x y then place lt x sorted k lo mid else place lt x sorted k (mid + 1) hi
      | none => lo
    else lo

/-- The list `sorted` with `x` put into its place. -/
def insert (lt : α → α → Bool) (sorted : List α) (x : α) : List α :=
  let i := place lt x sorted (sorted.length + 1) 0 sorted.length
  sorted.take i ++ x :: sorted.drop i

/-- The list in order. -/
def sort (lt : α → α → Bool) (xs : List α) : List α :=
  let (run, rest) := firstRun lt xs
  rest.foldl (insert lt) run

end ClusterPrep.Order
