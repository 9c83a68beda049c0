import ClusterPrep.Value.Basic
import ClusterPrep.Number.Shortest
import ClusterPrep.Text.Quoted

set_option autoImplicit false

/-
  Values as JSON: all in ASCII, every item and field on a line of its own, two columns further in
  than what holds it. Reals without value are written by name.
-/
namespace ClusterPrep.Json

/-- A unit of sixteen bits as an escape. -/
def unitEscape (n : Nat) : Text := '\\' :: 'u' :: Text.hexDigits 4 n

/-- A character inside a JSON string. -/
def escapedChar (c : CodePoint) : Text :=
  let n := c.toNat
  if c = '"' then "\\\""
  else if c = '\\' then "\\\\"
  else if 32 ≤ n ∧ n ≤ 126 then [c]
  else if n = 8 then "\\b"
  else if n = 9 then "\\t"
  else if n = 10 then "\\n"
  else if n = 12 then "\\f"
  else if n = 13 then "\\r"
  else if n < 0x10000 then unitEscape n
  else unitEscape (0xD800 + (n - 0x10000) / 0x400) ++ unitEscape (0xDC00 + (n - 0x10000) % 0x400)

/-- A text as a JSON string. -/
def stringText (s : Text) : Text := "\"" ++ s.flatMap escapedChar ++ "\""

/-- A real as JSON. -/
def realText : Binary64 → Text
  | .nan => "NaN"
  | .inf false => "Infinity"
  | .inf true => "-Infinity"
  | x => x.text

/-- A new line at a level of nesting. -/
def newLine (level : Nat) : Text := '\n' :: Text.copies (2 * level) ' '

/-- Items between brackets, each on its own line one level further in. -/
def block (opening closing : CodePoint) (level : Nat) (items : List Text) : Text :=
  if items.isEmpty then [opening, closing]
  else opening :: newLine (level + 1) ++ Text.joinWith (',' :: newLine (level + 1)) items ++
    newLine level ++ [closing]

mutual

/-- A value as JSON at a level of nesting. A point in time has no JSON form and is written as
    nothing. -/
def write (level : Nat) : Value → Attempt Text
  | .null | .moment _ => .ok "null"
  | .bool b => .ok (if b then "true" else "false")
  | .int i => Numeral.writeInt i
  | .real x => .ok (realText x)
  | .text s => .ok (stringText s)
  | .list items => do return block '[' ']' level (← writeItems (level + 1) items)
  | .table fields => do return block '\x7b' '\x7d' level (← writeFields (level + 1) fields)

def writeItems (level : Nat) : List Value → Attempt (List Text)
  | [] => .ok []
  | v :: rest => do
    let s ← write level v
    return s :: (← writeItems level rest)

def writeFields (level : Nat) : List (Text × Value) → Attempt (List Text)
  | [] => .ok []
  | (k, v) :: rest => do
    let s ← write level v
    return (stringText k ++ ": " ++ s) :: (← writeFields level rest)

end

end ClusterPrep.Json
