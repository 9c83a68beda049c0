import ClusterPrep.Hpl.Label
import ClusterPrep.Value.Printer

set_option autoImplicit false

/-
  What is wrong with a configuration, in words.
-/
namespace ClusterPrep.Hpl

/-- The list fields whose values are to be greater than zero. -/
def Multi.isPositive : Multi → Bool
  | .ns | .nbs | .ps | .qs | .nbmins | .ndivs => true
  | _ => false

/-- A number proper: no truth value and nothing that is not a number. A whole number beyond the
    reals fails. -/
def isNumber : Value → Attempt Bool
  | .int i => do
    let _ ← Binary64.ofInt? i
    return true
  | .real x => return x != .nan
  | _ => return false

/-- Whether a value is at most zero. -/
def isAtMostZero (v : Value) : Bool :=
  match v.number? with
  | some n => n.le (.int 0)
  | none => false

/-- The values that are not numbers. -/
def nonNumbers : List Value → Attempt (List Value)
  | [] => return []
  | v :: rest => do
    let ok ← isNumber v
    let bad ← nonNumbers rest
    return if ok then bad else v :: bad

/-- What is wrong with a list field. -/
def multiProblems (c : Config) (f : Multi) : Attempt (List Text) := do
  let vs := c.multi f
  if vs.isEmpty then return [f.label ++ " must not be empty"]
  match ← nonNumbers vs with
  | bad :: _ =>
    return [f.label ++ " contains non-numeric value " ++ (← bad.literal)]
  | [] =>
    if f.isPositive && vs.any isAtMostZero then
      return [f.label ++ " values must be positive"]
    return []

/-- What is wrong with a single field. -/
def singleProblems (c : Config) (f : Single) : Attempt (List Text) := do
  match c.single f with
  | .null => return []
  | v => return if ← isNumber v then [] else [f.label ++ " is not a number"]

/-- What is wrong with the numbers of P and Q. -/
def pairingProblems (c : Config) : List Text :=
  if c.ps.length = c.qs.length then []
  else [s!"Ps and Qs must have the same length ({c.ps.length} vs {c.qs.length})"]

/-- What is wrong with one grid when `available` processes can run. -/
def gridProblems (available p q : Value) : Attempt (List Text) := do
  if !(← isNumber p) then return []
  if !(← isNumber q) then return []
  match p.number?, q.number? with
  | some a, some b =>
    let needed := Value.ofNumber (← a.mul b)
    match needed.number?, available.number? with
    | some n, some limit =>
      if limit.lt n then
        return ["Grid " ++ (← p.shown) ++ "x" ++ (← q.shown) ++ " needs " ++ (← needed.shown) ++
          " processes, only " ++ (← available.shown) ++ " available"]
      return []
    | _, _ => throw (.unordered ">" needed.kindName available.kindName)
  | _, _ => return []

/-- What is wrong with the grids, in order. -/
def gridsProblems (available : Value) (c : Config) : Attempt (List Text) :=
  return (← (c.ps.zip c.qs).mapM fun pq => gridProblems available pq.1 pq.2).flatten

/-- The list fields, in the order in which they are checked. -/
def multis : List Multi :=
  [.ns, .nbs, .ps, .qs, .pfacts, .nbmins, .ndivs, .rfacts, .bcasts, .depths]

/-- The single fields that are to be numbers, in the order in which they are checked. -/
def numericSingles : List Single :=
  [.outDevice, .pmap, .threshold, .swap, .swappingThreshold, .l1, .u, .equilibration, .alignment]

/-- Everything that is wrong with a configuration, for a number of available processes if that is
    not missing. -/
def problems (c : Config) (available : Value) : Attempt (List Text) := do
  let lists ← multis.mapM (multiProblems c)
  let singles ← numericSingles.mapM (singleProblems c)
  let grids ← match available with
    | .null => pure []
    | n => gridsProblems n c
  return lists.flatten ++ pairingProblems c ++ singles.flatten ++ grids

end ClusterPrep.Hpl
