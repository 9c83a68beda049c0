import ClusterPrep.Hpl.Config

set_option autoImplicit false

/-
  The order of an HPL.dat file: two header lines, then every field in a place of its own. A single
  value takes a line. A list takes a line with its length and a line with its values. The process
  grids take one line with their number, one with all the P and one with all the Q. What follows
  the values on a line is a label only.
-/
namespace ClusterPrep.Hpl

/-- A place in the file. -/
inductive Entry
  | single (field : Single) (label : Text)
  | multi (field : Multi) (countLabel valuesLabel : Text)
  | grids (countLabel psLabel qsLabel : Text)
deriving DecidableEq

/-- The header lines. -/
def header : List Text := [
  "HPLinpack benchmark input file",
  "Innovative Computing Laboratory, University of Tennessee"]

/-- The places of the file after the header. -/
def schema : List Entry := [
  .single .outFile "output file name (if any)",
  .single .outDevice "device out (6=stdout,7=stderr,file)",
  .multi .ns "# of problems sizes (N)" "Ns",
  .multi .nbs "# of NBs" "NBs",
  .single .pmap "PMAP process mapping (0=Row-,1=Column-major)",
  .grids "# of process grids (P x Q)" "Ps" "Qs",
  .single .threshold "threshold",
  .multi .pfacts "# of panel fact" "PFACTs (0=left, 1=Crout, 2=Right)",
  .multi .nbmins "# of recursive stopping criterium" "NBMINs (>= 1)",
  .multi .ndivs "# of panels in recursion" "NDIVs",
  .multi .rfacts "# of recursive panel fact." "RFACTs (0=left, 1=Crout, 2=Right)",
  .multi .bcasts "# of broadcast" "BCASTs (0=1rg,1=1rM,2=2rg,3=2rM,4=Lng,5=LnM)",
  .multi .depths "# of lookahead depth" "DEPTHs (>=0)",
  .single .swap "SWAP (0=bin-exch,1=long,2=mix)",
  .single .swappingThreshold "swapping threshold",
  .single .l1 "L1 in (0=transposed,1=no-transposed) form",
  .single .u "U  in (0=transposed,1=no-transposed) form",
  .single .equilibration "Equilibration (0=no,1=yes)",
  .single .alignment "memory alignment in double (> 0)"]

end ClusterPrep.Hpl
