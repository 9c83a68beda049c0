import ClusterPrep.Failure
import ClusterPrep.Files.Path
import ClusterPrep.Text.Utf8

set_option autoImplicit false

/-
  The files and directories around a working directory, and reading and writing them by path. The
  working directory has directories above it, of which nothing but that is known, and from the
  root the directories can be reached that every system has there.
-/
namespace ClusterPrep.Files

/-- What a path can lead to. -/
inductive Node
  | file (bytes : List UInt8)
  | directory
deriving DecidableEq

/-- Where the names of a place begin: at the root, or some directories above the working
    directory. -/
inductive Base
  | root
  | above (levels : Nat)
deriving DecidableEq, Repr

/-- A place for a node: names from a base. -/
structure Place where
  base : Base
  names : List Text
deriving DecidableEq, Repr

namespace Place

/-- The place of names from the working directory. -/
def ofNames (names : List Text) : Place := ⟨.above 0, names⟩

/-- The place of a name in the directory at a place. -/
def child (here : Place) (name : Text) : Place := { here with names := here.names ++ [name] }

/-- The directory that holds a place; the root holds itself. -/
def parent (here : Place) : Place :=
  match here.base with
  | .root => { here with names := here.names.dropLast }
  | .above levels =>
    if here.names = [] then ⟨.above (levels + 1), []⟩
    else { here with names := here.names.dropLast }

/-- A name's directory is the one it was sought in. -/
theorem parent_child (here : Place) (name : Text) : (here.child name).parent = here := by
  obtain ⟨base, names⟩ := here
  cases base <;> simp [child, parent]

end Place

/-- The nodes by their places. Every base is a directory itself. -/
abbrev Tree := List (Place × Node)

namespace Tree

/-- The directories at the root that every system has, and nothing else. -/
def bare : Tree :=
  ["bin", "boot", "dev", "etc", "home", "lib", "media", "mnt", "opt", "proc", "root", "run", "sbin",
    "srv", "sys", "tmp", "usr", "var"].map fun name : String => (⟨.root, [↑name]⟩, .directory)

/-- The node at a place. -/
def node? (t : Tree) (place : Place) : Option Node :=
  if place.names = [] then some .directory else t.lookup place

/-- The tree with a node set. -/
def put (place : Place) (n : Node) : Tree → Tree
  | [] => [(place, n)]
  | (k, m) :: rest => if k = place then (k, n) :: rest else (k, m) :: put place n rest

theorem lookup_put_self (t : Tree) (place : Place) (n : Node) :
    (t.put place n).lookup place = some n := by
  induction t with
  | nil => simp [put]
  | cons e rest ih =>
    obtain ⟨k, m⟩ := e
    by_cases h : k = place
    · simp [put, h]
    · have away : (place == k) = false := by simpa using Ne.symm h
      simp [put, h, List.lookup_cons, away, ih]

theorem lookup_put_of_ne (t : Tree) (place other : Place) (n : Node) (h : other ≠ place) :
    (t.put place n).lookup other = t.lookup other := by
  induction t with
  | nil => simp [put, List.lookup_cons, beq_eq_false_iff_ne.mpr h]
  | cons e rest ih =>
    obtain ⟨k, m⟩ := e
    by_cases hk : k = place
    · subst hk
      simp [put, List.lookup_cons, beq_eq_false_iff_ne.mpr h]
    · simp [put, hk, List.lookup_cons, ih]

/-- A node that was put is found. -/
theorem node?_put_self (t : Tree) (place : Place) (n : Node) (h : place.names ≠ []) :
    (t.put place n).node? place = some n := by
  simp [node?, h, lookup_put_self]

/-- Putting a node changes no other one. -/
theorem node?_put_of_ne (t : Tree) (place other : Place) (n : Node) (h : other ≠ place) :
    (t.put place n).node? other = t.node? other := by
  simp [node?, lookup_put_of_ne t place other n h]

/-- The greatest number of bytes of a name. -/
def maxNameBytes : Nat := 255

/-- The greatest number of bytes of a path. -/
def maxPathBytes : Nat := 4095

/-- Follow names from the directory `here`; all but the last lead to directories. -/
def walk (t : Tree) (here : Place) : List Text → Except FileError Place
  | [] => return here
  | n :: rest =>
    if maxNameBytes < (Text.encode n).length then throw .nameTooLong
    else
      let next := if n = ".." then here.parent else here.child n
      if rest = [] then return next
      else match t.node? next with
        | some .directory => walk t next rest
        | some (.file _) => throw .notDirectory
        | none => throw .missing

/-- The place that a path leads to, whether something is there or not. -/
def resolve (t : Tree) (p : Path) : Except FileError Place :=
  if maxPathBytes < (Text.encode p.text).length then throw .nameTooLong
  else t.walk (if p.slashes = 0 then .ofNames [] else ⟨.root, []⟩) p.names

/-- The bytes of the file at a path. -/
def readBytes (t : Tree) (p : Path) : Except FileError (List UInt8) := do
  match t.node? (← t.resolve p) with
  | some (.file bytes) => return bytes
  | some .directory => throw .isDirectory
  | none => throw .missing

/-- The tree with a file written at a path. -/
def writeBytes (t : Tree) (p : Path) (bytes : List UInt8) : Except FileError Tree := do
  let place ← t.resolve p
  match t.node? place with
  | some .directory => throw .isDirectory
  | _ => return t.put place (.file bytes)

/-- The tree with a directory at a path, which may be there already. -/
def makeDirectory (t : Tree) (p : Path) : Except FileError Tree := do
  let place ← t.resolve p
  match t.node? place with
  | none => return t.put place .directory
  | some .directory => return t
  | some (.file _) => throw .alreadyExists

/-- Whether there is anything at a path. Of one that is too long this cannot be said. -/
def exists? (t : Tree) (p : Path) : Except FileError Bool :=
  match t.resolve p with
  | .ok place => return (t.node? place).isSome
  | .error .nameTooLong => throw .nameTooLong
  | .error _ => return false

end Tree

end ClusterPrep.Files
