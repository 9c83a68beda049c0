import ClusterPrep.Value.Basic

set_option autoImplicit false

/-
  A TOML document while it is read: the tables so far and what may no longer be done to them. A
  path of keys leads through tables, and through the last table of an array of tables.
-/
namespace ClusterPrep.Toml

/-- Why a text is not read. -/
inductive Error
  | malformed
  | longNumeral
  | tooDeep
deriving DecidableEq, Repr

abbrev Path := List Text

/-- What is settled about a path. -/
inductive Mark
  /-- The table was opened under its own name and cannot be opened again. -/
  | opened
  /-- What the path leads to, and all below it, came from an inline value and cannot change. -/
  | frozen
deriving DecidableEq, Repr

/-- The marks of a document. -/
abbrev Marks := List (Path × Mark)

/-- Whether a mark holds of a path. A frozen path freezes all below it. -/
def Marks.has (marks : Marks) (path : Path) (mark : Mark) : Bool :=
  marks.any fun pm => pm.2 == mark &&
    (pm.1 == path || mark == .frozen && !pm.1.isEmpty && pm.1.isPrefixOf path)

/-- The marks without those of a path and of all below it. -/
def Marks.without (marks : Marks) (path : Path) : Marks :=
  marks.filter fun pm => !path.isPrefixOf pm.1

abbrev Fields := List (Text × Value)

/-- Change the table that a path leads to, making the tables that are missing on the way. Arrays
    are passed through only if `throughArrays`. -/
def change (throughArrays : Bool) (f : Fields → Except Error Fields) :
    Path → Fields → Except Error Fields
  | [], t => f t
  | key :: path, t =>
    match t.lookup key with
    | none => do
      let sub ← change throughArrays f path []
      return Value.set key (.table sub) t
    | some (.table sub) => do
      let sub ← change throughArrays f path sub
      return Value.set key (.table sub) t
    | some (.list items) =>
      match throughArrays, items.getLast? with
      | true, some (.table sub) => do
        let sub ← change throughArrays f path sub
        return Value.set key (.list (items.dropLast ++ [.table sub])) t
      | _, _ => throw .malformed
    | some _ => throw .malformed

/-- Add a field that must be new. -/
def addField (key : Text) (v : Value) (t : Fields) : Except Error Fields :=
  if (t.lookup key).isSome then throw .malformed else return t ++ [(key, v)]

/-- Add an empty table to an array of tables, which may be new. -/
def addElement (key : Text) (t : Fields) : Except Error Fields :=
  match t.lookup key with
  | none => return t ++ [(key, .list [.table []])]
  | some (.list items) => return Value.set key (.list (items ++ [.table []])) t
  | some _ => throw .malformed

/-- A document while it is read: its root table, the marks, the marks that the next header will
    set, and the table that fields now go to. -/
structure Document where
  root : Fields := []
  marks : Marks := []
  pending : Marks := []
  header : Path := []

/-- The marks that were waiting for a header. -/
def Document.settle (d : Document) : Document :=
  { d with marks := d.pending ++ d.marks, pending := [] }

/-- Open a table under its own name. -/
def Document.openTable (d : Document) (path : Path) : Except Error Document := do
  let d := d.settle
  if d.marks.has path .opened || d.marks.has path .frozen then throw .malformed
  let root ← change true (fun t => return t) path d.root
  return { d with root, marks := (path, .opened) :: d.marks, header := path }

/-- Open a new table at the end of an array of tables. -/
def Document.openElement (d : Document) (path : Path) : Except Error Document := do
  let d := d.settle
  if d.marks.has path .frozen then throw .malformed
  let key := path.getLast?.getD []
  let root ← change true (addElement key) path.dropLast d.root
  return { d with root, marks := (path, .opened) :: d.marks.without path, header := path }

/-- Whether a value brings tables or arrays of its own. -/
def isInline : Value → Bool
  | .table _ | .list _ => true
  | _ => false

/-- The beginnings of a path, the empty one and the whole left out. -/
def properBeginnings (path : Path) : List Path :=
  (List.range (path.length - 1)).map fun i => path.take (i + 1)

/-- Set a field below the current header. -/
def Document.setField (d : Document) (path : Path) (v : Value) : Except Error Document := do
  let ways := (properBeginnings path).map (d.header ++ ·)
  if ways.any (d.marks.has · .opened) then throw .malformed
  let parent := d.header ++ path.dropLast
  if d.marks.has parent .frozen then throw .malformed
  let key := path.getLast?.getD []
  let root ← change true (addField key v) parent d.root
  let marks := if isInline v then (d.header ++ path, Mark.frozen) :: d.marks else d.marks
  return { d with root, marks, pending := ways.map (·, Mark.opened) ++ d.pending }

end ClusterPrep.Toml
