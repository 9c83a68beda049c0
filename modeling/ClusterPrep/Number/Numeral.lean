import ClusterPrep.Number.Binary64
import ClusterPrep.Text.Digit
import ClusterPrep.Text.Blank

set_option autoImplicit false

/-
  Numerals: the texts that stand for whole numbers and for reals. Digits of every script count, a
  single underscore may stand between two digits, and blanks around the numeral are passed over.
  Whole numbers of more than 4300 digits are neither read nor written.
-/
namespace ClusterPrep.Numeral

/-- The greatest number of digits of a whole number that is read or written. -/
def maxDigits : Nat := 4300

/-- Blanks that may stand around a numeral: all but the information separators. -/
def isMargin (c : CodePoint) : Bool := Text.isBlank c && !(28 ≤ c.toNat && c.toNat ≤ 31)

/-- The number whose decimal digits these are. -/
def ofDigits (ds : List Nat) : Nat := ds.foldl (fun n d => 10 * n + d) 0

/-- A run of digits, single underscores between them, and what follows. Nothing if the run is empty
    or an underscore is not between two digits. `afterDigit` tells whether a digit came before. -/
def digitRun (afterDigit : Bool) : Text → Option (List Nat × Text)
  | [] => if afterDigit then some ([], []) else none
  | c :: rest =>
    match Text.digitValue? c with
    | some d => (digitRun true rest).map fun r => (d :: r.1, r.2)
    | none =>
      if !afterDigit then none
      else if c = '_' then digitRun false rest
      else some ([], c :: rest)

/-- The sign in front, if any, and what follows it. -/
def sign : Text → Bool × Text
  | '+' :: rest => (false, rest)
  | '-' :: rest => (true, rest)
  | s => (false, s)

/-- The whole number that a text stands for. -/
def readInt (s : Text) : Attempt Int :=
  let (neg, body) := sign (Text.trimWhile isMargin s)
  match digitRun false body with
  | none => .error (.notInteger s)
  | some (ds, rest) =>
    if maxDigits < ds.length then .error (.longNumeral ds.length)
    else if rest ≠ [] then .error (.notInteger s)
    else .ok (if neg then -(ofDigits ds : Int) else (ofDigits ds : Int))

/-- An optional run of digits. -/
def optionalRun (s : Text) : Option (List Nat × Text) :=
  match s with
  | [] => some ([], [])
  | c :: _ => if Text.isDecimalDigit c then digitRun false s else some ([], s)

/-- The decimal point, if it is there, and the digits after it. -/
def fraction (s : Text) : Option (List Nat × Text) :=
  match s with
  | '.' :: rest => optionalRun rest
  | _ => some ([], s)

/-- The exponent at the end of a numeral: zero if the numeral ends without one. -/
def exponent : Text → Option Int
  | [] => some 0
  | c :: rest =>
    if c = 'e' ∨ c = 'E' then
      let (neg, body) := sign rest
      match digitRun false body with
      | some (ds, []) => some (if neg then -(ofDigits ds : Int) else (ofDigits ds : Int))
      | _ => none
    else none

/-- The real of an unsigned numeral: digits, a point, digits, an exponent, with at least one digit
    before or after the point. -/
def unsignedReal (neg : Bool) (s : Text) : Option Binary64 :=
  (optionalRun s).bind fun (whole, s) =>
  (fraction s).bind fun (part, s) =>
  if whole = [] ∧ part = [] then none
  else (exponent s).map fun e =>
    Binary64.ofDecimal neg (ofDigits (whole ++ part)) (e - (part.length : Int))

/-- The real that a text stands for: a decimal numeral or a name of infinity or of what is not a
    number, in letters of either case. -/
def readReal (s : Text) : Attempt Binary64 :=
  let (neg, body) := sign (Text.trimWhile isMargin s)
  let name := body.map CodePoint.toLower
  if name = "inf" ∨ name = "infinity" then .ok (.inf neg)
  else if name = "nan" then .ok .nan
  else match unsignedReal neg body with
    | some x => .ok x
    | none => .error (.notReal s)

/-- The decimal digits of a natural number. -/
def ofNat (n : Nat) : Text := .ofChars (Nat.toDigits 10 n)

/-- The decimal form of a whole number of any size. -/
def ofInt (i : Int) : Text := if i < 0 then '-' :: ofNat i.natAbs else ofNat i.natAbs

/-- The decimal form of a whole number, unless it is too long. -/
def writeInt (i : Int) : Attempt Text :=
  if maxDigits < (ofNat i.natAbs).length then .error .longInteger else .ok (ofInt i)

end ClusterPrep.Numeral
