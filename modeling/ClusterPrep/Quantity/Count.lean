import ClusterPrep.Number.Numeral
import ClusterPrep.Number.Basic

set_option autoImplicit false

/-
  Counts of processes and lists of numbers, as they are typed in.
-/
namespace ClusterPrep.Count

/-- A number of processes, one at least. -/
def readProcesses (s : Text) : Attempt Int := do
  let s := Text.strip s
  if s.isEmpty then throw .emptyProcessCount
  if !s.all Text.isDigitSign then throw (.badProcessCount s)
  let n ← Numeral.readInt s
  if n < 1 then throw .zeroProcessCount
  return n

/-- A number: whole if its text is that of a whole number. -/
def readNumber (token : Text) : Attempt Number :=
  match Numeral.readInt token with
  | .ok i => return .int i
  | .error _ =>
    match Numeral.readReal token with
    | .ok x => return .real x
    | .error _ => throw (.notNumber token)

/-- The words of a text in which commas separate as blanks do. -/
def listWords (s : Text) : List Text :=
  Text.words (s.map fun c : CodePoint => if c = ',' then ' ' else c)

/-- Several numbers. -/
def readNumbers : List Text → Attempt (List Number)
  | [] => return []
  | w :: rest => do
    let n ← readNumber w
    return n :: (← readNumbers rest)

/-- A list of numbers, one at least. -/
def readList (s : Text) : Attempt (List Number) :=
  match listWords s with
  | [] => throw .emptyNumberList
  | ws => readNumbers ws

end ClusterPrep.Count
