import ClusterPrep.Value.Basic
import ClusterPrep.Number.Shortest

set_option autoImplicit false

/-
  Values as messages and files show them. `literal` writes any value so that its kind can be seen;
  `shown` writes a text as it is and any other value as its literal. Both fail only over a whole
  number that is too long to write.
-/
namespace ClusterPrep.Value

private def call (name : String) (args : List Text) : Text :=
  name ++ "(" ++ Text.joinWith ", " args ++ ")"

/-- Trailing zero seconds and fractions of a second are left out. -/
private def clockArgs (hour minute second micro : Nat) : List Text :=
  let args := if micro ≠ 0 then [hour, minute, second, micro]
    else if second ≠ 0 then [hour, minute, second]
    else [hour, minute]
  args.map Numeral.ofNat

/-- The zone of an offset in minutes: whole days below zero and seconds within the day. -/
def zoneText (offset : Int) : Text :=
  if offset = 0 then "datetime.timezone.utc"
  else
    let seconds := "seconds=" ++ Numeral.ofInt (offset % 1440 * 60)
    let args : List Text := if offset < 0 then ["days=-1", seconds] else [seconds]
    call "datetime.timezone" [call "datetime.timedelta" args]

/-- A point in time, as the call that makes it. -/
def momentText : Moment → Text
  | .date y m d => call "datetime.date" ([y, m, d].map Numeral.ofNat)
  | .clock h m s u => call "datetime.time" (clockArgs h m s u)
  | .dateTime y mo d h m s u offset =>
    let zone : List Text := match offset with
      | some o => ["tzinfo=" ++ zoneText o]
      | none => []
    call "datetime.datetime" ([y, mo, d].map Numeral.ofNat ++ clockArgs h m s u ++ zone)

mutual

/-- The literal of a value. -/
def literal : Value → Attempt Text
  | null => .ok "None"
  | bool b => .ok (if b then "True" else "False")
  | int i => Numeral.writeInt i
  | real x => .ok x.text
  | text s => .ok (Text.quoted s)
  | moment m => .ok (momentText m)
  | list items => do return "[" ++ Text.joinWith ", " (← literals items) ++ "]"
  | table fields => do
    return "\x7b" ++ Text.joinWith ", " (← fieldLiterals fields) ++ "\x7d"

def literals : List Value → Attempt (List Text)
  | [] => .ok []
  | v :: rest => do
    let s ← literal v
    return s :: (← literals rest)

def fieldLiterals : List (Text × Value) → Attempt (List Text)
  | [] => .ok []
  | (k, v) :: rest => do
    let s ← literal v
    return (Text.quoted k ++ ": " ++ s) :: (← fieldLiterals rest)

end

/-- The value as text: a text as it is, any other value as its literal. -/
def shown : Value → Attempt Text
  | text s => .ok s
  | v => literal v

/-- Several values, one after the other. -/
def shownAll (vs : List Value) : Attempt Text := do
  return Text.unwords (← vs.mapM shown)

end ClusterPrep.Value
