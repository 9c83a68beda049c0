import ClusterPrep.Number.Numeral

set_option autoImplicit false

/-
  Amounts of memory: a numeral with a unit letter, in megabytes.
-/
namespace ClusterPrep.Memory

/-- The unit letters. The Kelvin sign passes for a letter K but names no unit. -/
inductive Scale
  | none
  | kilo
  | mega
  | giga
  | tera
deriving DecidableEq, Repr

/-- The unit of a letter of either case. -/
def Scale.ofChar? (c : CodePoint) : Option Scale :=
  if c = 'K' ∨ c = 'k' then some .kilo
  else if c = 'M' ∨ c = 'm' then some .mega
  else if c = 'G' ∨ c = 'g' then some .giga
  else if c = 'T' ∨ c = 't' then some .tera
  else if c.toNat = 0x212A then some .none
  else Option.none

/-- The unit in front, if there is one. -/
def unit (s : Text) : Scale × Text :=
  match s with
  | c :: rest =>
    match Scale.ofChar? c with
    | some u => (u, rest)
    | none => (.none, s)
  | [] => (.none, s)

/-- What follows the letter B in front, if it is there. -/
def dropByte : Text → Text
  | c :: rest => if c = 'B' ∨ c = 'b' then rest else c :: rest
  | [] => []

/-- The digits and the unit of an amount. -/
def parts? (s : Text) : Option (Text × Scale) :=
  let s := s.dropWhile Text.isBlank
  let (ds, rest) := (s.takeWhile Text.isDecimalDigit, s.dropWhile Text.isDecimalDigit)
  let (u, rest) := unit (rest.dropWhile Text.isBlank)
  if ds.isEmpty ∨ !((dropByte rest).dropWhile Text.isBlank).isEmpty then none else some (ds, u)

/-- An amount in megabytes, rounded down. Kilobytes are divided as reals. -/
def Scale.megabytes (value : Int) : Scale → Attempt Int
  | .none | .mega => return value
  | .giga => return value * 1024
  | .tera => return value * (1024 * 1024)
  | .kilo => do
    let x ← Binary64.ofInt? value
    (x.mul (.ofFraction false 1 1024)).truncate

/-- The megabytes of an amount, at least one. -/
def read (s : Text) : Attempt Int :=
  match parts? s with
  | none => throw (.badMemory s)
  | some (ds, u) => do
    let n ← u.megabytes (← Numeral.readInt ds)
    return max 1 n

end ClusterPrep.Memory
