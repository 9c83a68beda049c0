import ClusterPrep.Number.Numeral

set_option autoImplicit false

/-
  The text of a real: the fewest digits that read back as the same number and, of those, the
  nearest. Digits are written without an exponent from 0.0001 up to 10^16.
-/
namespace ClusterPrep.Binary64

/-- The number `digits * 10 ^ power`. -/
structure Decimal where
  digits : Nat
  power : Int

/-- The same number with no zero at the end of its digits. The first argument bounds the zeros
    that are removed. -/
def Decimal.trimFor : Nat → Decimal → Decimal
  | 0, d => d
  | k + 1, d =>
    if d.digits ≠ 0 ∧ d.digits % 10 = 0 then trimFor k ⟨d.digits / 10, d.power + 1⟩ else d

def Decimal.trim (d : Decimal) : Decimal := d.trimFor (Numeral.ofNat d.digits).length

/-- The place of the first digit of `a / d`, which is not zero: the least `k` such that
    `a / d < 10 ^ k`. The estimate from the binary lengths is close to it. -/
def decimalPlace (a d : Nat) : Int :=
  let below (k : Int) : Bool :=
    if 0 ≤ k then a < d * Nat.pow 10 k.toNat else a * Nat.pow 10 (-k).toNat < d
  let k : Int := (((a.log2 : Int) - (d.log2 : Int)) * 30103) / 100000
  if below (k - 1) then k - 1
  else if below k then k
  else if below (k + 1) then k + 1
  else k + 2

/-- The number `a / d * 10 ^ k` as a fraction. -/
def shiftDecimal (a d : Nat) (k : Int) : Nat × Nat :=
  if 0 ≤ k then (a * Nat.pow 10 k.toNat, d) else (a, d * Nat.pow 10 (-k).toNat)

/-- The two neighbours of `a / d` among the numbers of `n` digits, the nearer one first; of two
    equally near ones the even one. -/
def neighbours (a d : Nat) (place : Int) (n : Nat) : List Decimal :=
  let (num, den) := shiftDecimal a d (n - place)
  let q := num / den
  let lo : Decimal := ⟨q, place - n⟩
  let hi : Decimal := ⟨q + 1, place - n⟩
  if Number.roundEven num den = q then [lo, hi] else [hi, lo]

/-- How a decimal number is written. -/
structure Layout where
  /-- The first digit's power of ten from which an exponent is written. -/
  upper : Int
  /-- The least power of ten that is written without an exponent. -/
  lower : Int
  /-- Whether a whole number ends in a point and a zero. -/
  pointZero : Bool

/-- An exponent: its sign and at least two digits. -/
def exponentText (e : Int) : Text :=
  let ds := Numeral.ofNat e.natAbs
  'e' :: (if e < 0 then '-' else '+') :: (Text.copies (2 - ds.length) '0' ++ ds)

/-- The text of a decimal number under a layout. -/
def Layout.text (f : Layout) (neg : Bool) (d : Decimal) : Text :=
  let d := d.trim
  let ds := Numeral.ofNat d.digits
  let place : Int := ds.length + d.power
  let first := if d.digits = 0 then 0 else place - 1
  let body :=
    if first < f.lower ∨ f.upper ≤ first then
      (match ds with
        | [c] => [c]
        | c :: rest => c :: '.' :: rest
        | [] => []) ++ exponentText first
    else if place ≤ 0 then
      "0." ++ Text.copies (-place).toNat '0' ++ ds
    else if ds.length ≤ place.toNat then
      ds ++ Text.copies (place.toNat - ds.length) '0' ++ if f.pointZero then ".0" else ""
    else ds.take place.toNat ++ "." ++ ds.drop place.toNat
  if neg then '-' :: body else body

/-- The texts of infinity and of what is not a number. -/
def specialText : Binary64 → Text
  | nan => "nan"
  | inf neg => if neg then "-inf" else "inf"
  | finite .. => ""

/-- Reals stand without exponent from 10^-4 up to 10^16 and show that they are reals. -/
def realLayout : Layout := ⟨16, -4, true⟩

/-- The exact value of a finite number as a decimal. -/
def exact (x : Binary64) : Decimal := ⟨x.units.natAbs * Nat.pow 5 1074, -1074⟩

/-- The texts among which the shortest that reads back is chosen. -/
def candidates (x : Binary64) : List Text :=
  let a := x.units.natAbs
  if a = 0 then [realLayout.text x.isNegative ⟨0, 0⟩]
  else
    let place := decimalPlace a one
    (List.range 17).flatMap fun n =>
      (neighbours a one place (n + 1)).map (realLayout.text x.isNegative)

/-- Whether a text stands for `x`. -/
def readsAs (x : Binary64) (s : Text) : Bool :=
  match Numeral.readReal s with
  | .ok y => x == y
  | .error _ => false

/-- The shortest text that reads back as the number. -/
def text (x : Binary64) : Text :=
  match x with
  | finite .. =>
    ((candidates x).find? (readsAs x)).getD (realLayout.text x.isNegative (exact x))
  | _ => specialText x

/-- At most `digits` significant digits, without zeros at the end. -/
def general (digits : Nat) (x : Binary64) : Text :=
  match x with
  | finite .. =>
    let a := x.units.natAbs
    let layout : Layout := ⟨digits, -4, false⟩
    if a = 0 then layout.text x.isNegative ⟨0, 0⟩
    else
      let place := decimalPlace a one
      let (num, den) := shiftDecimal a one (digits - place)
      layout.text x.isNegative ⟨Number.roundEven num den, place - digits⟩
  | _ => specialText x

/-- Exactly `places` digits after the point. -/
def fixed (places : Nat) (x : Binary64) : Text :=
  match x with
  | finite .. =>
    let n := Number.roundEven (x.units.natAbs * Nat.pow 10 places) one
    let ds := Numeral.ofNat n
    let ds := Text.copies (places + 1 - ds.length) '0' ++ ds
    let whole := ds.take (ds.length - places)
    let body := if places = 0 then whole else whole ++ "." ++ ds.drop (ds.length - places)
    if x.isNegative then '-' :: body else body
  | _ => specialText x

/-- A share in hundredths, to the nearest whole one. -/
def percent (x : Binary64) : Text := fixed 0 (mul x (ofInt 100)) ++ "%"

end ClusterPrep.Binary64
