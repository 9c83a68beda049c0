import ClusterPrep.Number.Numeral
import ClusterPrep.Value.Basic

set_option autoImplicit false

/-
  The words of an HPL.dat file. A word is a whole number, a real or a name, told by its form alone.
-/
namespace ClusterPrep.Hpl

/-- The digits in front and what follows them. -/
def leadingDigits (s : Text) : Text × Text :=
  (s.takeWhile Text.isDecimalDigit, s.dropWhile Text.isDecimalDigit)

/-- A sign, if any, and digits. -/
def isIntToken (s : Text) : Bool :=
  let (ds, rest) := leadingDigits (Numeral.sign s).2
  !ds.isEmpty && rest.isEmpty

/-- The end of a real: nothing, or an exponent of one digit at least. -/
def isExponentToken : Text → Bool
  | [] => true
  | c :: rest => (c == 'e' || c == 'E') && isIntToken rest

/-- A sign, if any, digits with a point before, among or after them, and an exponent. -/
def isRealToken (s : Text) : Bool :=
  let (whole, rest) := leadingDigits (Numeral.sign s).2
  match rest with
  | '.' :: rest =>
    let (part, rest) := leadingDigits rest
    !(whole.isEmpty && part.isEmpty) && isExponentToken rest
  | rest => !whole.isEmpty && isExponentToken rest

/-- The value of a word. -/
def tokenValue (s : Text) : Attempt Value :=
  if isIntToken s then return .int (← Numeral.readInt s)
  else if isRealToken s then return .real (← Numeral.readReal s)
  else return .text s

/-- The value of a word that ought to be a number; a name gives what is not a number. -/
def numberValue (s : Text) : Attempt Value := do
  match ← tokenValue s with
  | .text _ => return .real .nan
  | v => return v

/-- The whole number that a word begins with, as a count: zero if there is none or it is less than
    zero. -/
def countValue (s : Text) : Attempt Nat :=
  let (neg, body) := Numeral.sign s
  let (ds, _) := leadingDigits body
  if ds.isEmpty then return 0
  else do
    let n ← Numeral.readInt ds
    return if neg then 0 else n.toNat

end ClusterPrep.Hpl
