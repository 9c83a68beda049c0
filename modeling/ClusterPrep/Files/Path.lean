import ClusterPrep.Failure
import ClusterPrep.Text.Blank

set_option autoImplicit false

/-
  Paths: the names between slashes. Repeated slashes and names of a single point do not count. A
  tilde in front of the first name stands for a home directory.
-/
namespace ClusterPrep.Files

/-- A path, from the working directory or from the root. Two slashes in front are kept apart from
    one. -/
structure Path where
  slashes : Nat
  names : List Text
deriving DecidableEq

/-- The number of slashes in front that count. -/
def leadingSlashes (s : Text) : Nat :=
  match (s.takeWhile (· == .char '/')).length with
  | 0 => 0
  | 2 => 2
  | _ => 1

namespace Path

/-- The path of a text. -/
def ofText (s : Text) : Path :=
  ⟨leadingSlashes s, (Text.pieces '/' s).filter fun n => n ≠ [] ∧ n ≠ "."⟩

/-- The text of a path; a single point for the working directory. -/
def text (p : Path) : Text :=
  if p.slashes = 0 ∧ p.names = [] then "."
  else Text.copies p.slashes '/' ++ Text.joinWith ['/'] p.names

end Path

/-- Why no file can have a text in its path, if none can. -/
def pathFailure? (s : Text) : Option Failure :=
  match Text.strayHalves? Text.isByteHalf s with
  | some stray => some (.halves stray)
  | none => if s.any fun c => c.toNat == 0 then some .nullInPath else none

/-- The home directories by the names of their users. The empty name is that of the user at work. -/
abbrev Homes := List (Text × Path)

/-- The path with the home directory that its first name stands for, if it begins with a tilde. -/
def Path.expanded (homes : Homes) (p : Path) : Attempt Path :=
  match p.slashes, p.names with
  | 0, ('~' :: user) :: rest =>
    match homes.lookup user, pathFailure? user with
    | some home, _ => return { home with names := home.names ++ rest }
    | none, some e => throw e
    | none, none => throw .noHome
  | _, _ => return p

/-- A path from the root is no path from a home directory. -/
theorem Path.expanded_of_slashes (homes : Homes) (p : Path) (h : p.slashes ≠ 0) :
    p.expanded homes = .ok p := by
  unfold expanded
  split
  · next none _ => exact absurd none h
  · rfl

end ClusterPrep.Files
