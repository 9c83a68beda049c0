import ClusterPrep.Number.Numeral
import ClusterPrep.Text.Search
import ClusterPrep.Value.Basic

set_option autoImplicit false

/-
  Wall clock times: a number of seconds as text, `SS`, `MM:SS`, `HH:MM:SS` or `D-HH:MM:SS`.
-/
namespace ClusterPrep.Walltime

/-- The whole numbers of several fields. -/
def readFields : List Text → Attempt (List Int)
  | [] => return []
  | s :: rest => do
    let i ← Numeral.readInt s
    return i :: (← readFields rest)

/-- The seconds of a clock time. -/
def readClock (s : Text) : Attempt Int :=
  let fields := Text.pieces ':' s
  if 3 < fields.length then throw (.badTime s)
  else return (← readFields fields).foldl (fun n f => 60 * n + f) 0

/-- The seconds of a time, with the days before the first dash. -/
def read (s : Text) : Attempt Int := do
  let s := Text.strip s
  if s.isEmpty then throw .emptyTime
  match Text.cut '-' s with
  | (days, some clock) =>
    let d ← Numeral.readInt days
    return d * 86400 + (← readClock clock)
  | (clock, none) => readClock clock

/-- Two digits at least. -/
def twoDigits (n : Nat) : Text :=
  let ds := Numeral.ofNat n
  Text.copies (2 - ds.length) '0' ++ ds

/-- Seconds as a time: days only if there are any. -/
def write (seconds : Int) : Attempt Text := do
  if seconds < 0 then throw .negativeTime
  let n := seconds.toNat
  let clock := twoDigits (n / 3600 % 24) ++ ":" ++ twoDigits (n / 60 % 60) ++ ":" ++
    twoDigits (n % 60)
  let days := n / 86400
  if days = 0 then return clock
  return (← Numeral.writeInt days) ++ "-" ++ clock

/-- A number of seconds as a time; only whole numbers have one. -/
def writeValue (v : Value) : Attempt Text :=
  match v.number? with
  | some (.int i) => write i
  | some (.real x) => throw (if x.lt .zero then .negativeTime else .clockOfReal)
  | none => throw (.unordered "<" v.kindName "int")

end ClusterPrep.Walltime
