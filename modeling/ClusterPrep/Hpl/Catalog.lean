import ClusterPrep.Hpl.Label

set_option autoImplicit false

/-
  What the fields of an HPL.dat file mean, and the codes that some of them take.
-/
namespace ClusterPrep.Hpl

/-- What a field is, in a few words. -/
def Field.summary : Field → String
  | .single .outFile => "File HPL writes results to"
  | .single .outDevice => "Where HPL writes its report"
  | .multi .ns => "Problem sizes (N)"
  | .multi .nbs => "Block sizes (NB)"
  | .single .pmap => "Process mapping"
  | .multi .ps => "Process grid rows (P)"
  | .multi .qs => "Process grid columns (Q)"
  | .single .threshold => "Residual check threshold"
  | .multi .pfacts => "Panel factorization"
  | .multi .nbmins => "Recursive stopping criterion"
  | .multi .ndivs => "Panels in recursion"
  | .multi .rfacts => "Recursive panel factorization"
  | .multi .bcasts => "Panel broadcast algorithm"
  | .multi .depths => "Lookahead depth"
  | .single .swap => "Swapping algorithm"
  | .single .swappingThreshold => "Mixed swap threshold"
  | .single .l1 => "L1 storage form"
  | .single .u => "U storage form"
  | .single .equilibration => "Equilibrate during swaps"
  | .single .alignment => "Alignment in doubles"

/-- What there is to know about a field, line by line. -/
def Field.details : Field → List String
  | .single .outFile => [
    "Name of the output file.  Only used when the device out is set to 8 (file); " ++
      "otherwise it is ignored but must still be present.",
    "",
    "Example: HPL.out"]
  | .single .outDevice => [
    "  6 — standard output",
    "  7 — standard error",
    "  8 — the file named above"]
  | .multi .ns => [
    "Space-separated list of matrix orders to run.  The matrix occupies about 8·N² bytes " ++
      "spread across all processes, so the largest N that fits in roughly 80% of total " ++
      "memory usually gives the best result.",
    "",
    "Use the memory helper to compute a starting point.",
    "",
    "Example: 29000 40000"]
  | .multi .nbs => [
    "Space-separated list of block sizes used for data distribution and computational " ++
      "granularity.  Good values are usually in the range 32–256 and depend on the BLAS " ++
      "library.",
    "",
    "Example: 128 192 256"]
  | .single .pmap => [
    "Decides how MPI ranks are laid out on the P × Q grid.",
    "",
    "[0] Row-major: consecutive ranks fill a row first.",
    "+-------+-------+-------+",
    "| Rank0 | Rank1 | Rank2 |",
    "+-------+-------+-------+",
    "| Rank3 | Rank4 | Rank5 |",
    "+-------+-------+-------+",
    "",
    "[1] Column-major: consecutive ranks fill a column first.",
    "+-------+-------+-------+",
    "| Rank0 | Rank2 | Rank4 |",
    "+-------+-------+-------+",
    "| Rank1 | Rank3 | Rank5 |",
    "+-------+-------+-------+"]
  | .multi .ps => [
    "Rows of each process grid to try.  Must have as many entries as Qs; each P × Q pair " ++
      "is one grid.  P slightly smaller than Q is usually best.",
    "",
    "Use the grid helper to factor your process count."]
  | .multi .qs => [
    "Columns of each process grid, paired positionally with Ps."]
  | .single .threshold => [
    "Scaled residuals above this value are reported as failures.  16.0 is the standard " ++
      "value; a negative value skips the checks."]
  | .multi .pfacts => [
    "Panel factorization variants to try.",
    "",
    "[0] Left-looking: suits systems with low memory bandwidth.",
    "[1] Crout: suits networks with high latency.",
    "[2] Right-looking: cache friendly, usually fastest on modern systems."]
  | .multi .nbmins => [
    "Panel width below which the recursion stops (>= 1).  Typical values: 4 or 8."]
  | .multi .ndivs => [
    "Number of sub-panels each panel is split into during recursion.  2 is the usual " ++
      "choice."]
  | .multi .rfacts => [
    "Factorization variant used inside the recursion.  Same codes as PFACTs; trying " ++
      "combinations of the two is a common sweep.",
    "",
    "[0] Left",
    "[1] Crout",
    "[2] Right"]
  | .multi .bcasts => [
    "Algorithm used to broadcast the panel along process rows.",
    "",
    "  0 1rg: increasing-ring",
    "  1 1rM: increasing-ring (modified)",
    "  2 2rg: increasing-2-ring",
    "  3 2rM: increasing-2-ring (modified)",
    "  4 Lng: long (bandwidth reducing)",
    "  5 LnM: long (modified)",
    "",
    "1rM or 2rg tend to perform well on most systems."]
  | .multi .depths => [
    "  0: no lookahead",
    "  1: one panel ahead (most common)",
    " >=2: deeper lookahead",
    "",
    "Deeper lookahead hides communication latency at the cost of memory."]
  | .single .swap => [
    "  0 bin-exch: binary exchange",
    "  1 long: spread-roll",
    "  2 mix: binary exchange below the threshold, spread-roll above"]
  | .single .swappingThreshold => [
    "Column count at which SWAP=2 switches algorithms.  64 is typical."]
  | .single .l1 => [
    "  0 — transposed",
    "  1 — no-transposed"]
  | .single .u => [
    "  0 — transposed",
    "  1 — no-transposed"]
  | .single .equilibration => [
    "  0 — no",
    "  1 — yes",
    "",
    "Only relevant when SWAP is 1 or 2."]
  | .single .alignment => [
    "Memory alignment, in double-precision words, of allocated buffers (> 0).  Usually " ++
      "4, 8 or 16."]

/-- The variants of a panel factorization. -/
def factorizationCodes : List (Int × String) :=
  [(0, "0 (Left)"), (1, "1 (Crout)"), (2, "2 (Right)")]

/-- The codes that a field takes and their texts; none for a field without codes. -/
def Field.codes : Field → List (Int × String)
  | .single .outDevice => [(6, "6 (stdout)"), (7, "7 (stderr)"), (8, "8 (file)")]
  | .single .pmap => [(0, "0 (Row-major)"), (1, "1 (Column-major)")]
  | .multi .pfacts | .multi .rfacts => factorizationCodes
  | .multi .bcasts => [(0, "0 (1rg)"), (1, "1 (1rM)"), (2, "2 (2rg)"), (3, "3 (2rM)"),
    (4, "4 (Lng)"), (5, "5 (LnM)")]
  | .single .swap => [(0, "0 (bin-exch)"), (1, "1 (long)"), (2, "2 (mix)")]
  | .single .l1 | .single .u => [(0, "0 (transposed)"), (1, "1 (no-transposed)")]
  | .single .equilibration => [(0, "0 (No)"), (1, "1 (Yes)")]
  | _ => []

/-- Title and body of the help on a field. -/
def Field.help (f : Field) : Text × Text :=
  let body : Text := f.summary ++ "\n\n" ++ "\n".intercalate f.details
  match f.codes with
  | [] => (f.label, body)
  | codes =>
    (f.label, body ++ "\n\nAccepted codes: " ++ ", ".intercalate (codes.map Prod.snd))

/-- Title and body of the help on the field of a name, which may be unknown. -/
def help (key : Text) : Text × Text :=
  match Field.ofKey? key with
  | some f => f.help
  | none => (key, "No documentation available.")

end ClusterPrep.Hpl
