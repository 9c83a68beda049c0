set_option autoImplicit false

/-
  Code points: the characters, and the halves of surrogate pairs, which an escape can write where
  no pair is. The number of a code point tells it from all others.
-/
namespace ClusterPrep

/-- A code point. The halves of surrogate pairs are counted from the first of them. -/
inductive CodePoint
  | char (c : Char)
  | half (n : Fin 0x800)
deriving DecidableEq, Repr

instance : Coe Char CodePoint := ⟨.char⟩

namespace CodePoint

/-- The number of a code point. -/
def toNat : CodePoint → Nat
  | char c => c.toNat
  | half n => 0xD800 + n

/-- The code point of a number. -/
def ofNat (n : Nat) : CodePoint :=
  if h : 0xD800 ≤ n ∧ n < 0xE000 then half ⟨n - 0xD800, by omega⟩ else char (Char.ofNat n)

/-- A code point is known by its number. -/
theorem ofNat_toNat (p : CodePoint) : ofNat p.toNat = p := by
  cases p with
  | char c =>
    have outside : ¬ (0xD800 ≤ c.toNat ∧ c.toNat < 0xE000) := by
      have valid := c.valid
      simp only [UInt32.isValidChar, Nat.isValidChar] at valid
      simp only [Char.toNat]
      omega
    rw [toNat, ofNat, dif_neg outside, Char.ofNat_toNat]
  | half n =>
    have small := n.isLt
    have inside : 0xD800 ≤ 0xD800 + n.val ∧ 0xD800 + n.val < 0xE000 := by omega
    rw [toNat, ofNat, dif_pos inside]
    have back : 0xD800 + n.val - 0xD800 = n.val := by omega
    simp only [back]

/-- Whether it is a half of a surrogate pair. -/
def isHalf : CodePoint → Bool
  | char _ => false
  | half _ => true

@[simp] theorem isHalf_char (c : Char) : (char c).isHalf = false := rfl

@[simp] theorem isHalf_half (n : Fin 0x800) : (half n).isHalf = true := rfl

/-- Whether it is a character of some sort. -/
def isChar (sort : Char → Bool) : CodePoint → Bool
  | char c => sort c
  | half _ => false

/-- Whether it is a digit of ASCII. -/
def isDigit : CodePoint → Bool := isChar Char.isDigit

/-- Whether it is a letter or a digit of ASCII. -/
def isAlphanum : CodePoint → Bool := isChar Char.isAlphanum

/-- Whether it is a small letter of ASCII. -/
def isLower : CodePoint → Bool := isChar Char.isLower

/-- The code point with a capital letter of ASCII made small. -/
def toLower : CodePoint → CodePoint
  | char c => c.toLower
  | half n => half n

/-- The code point with a small letter of ASCII made a capital. -/
def toUpper : CodePoint → CodePoint
  | char c => c.toUpper
  | half n => half n

end CodePoint

end ClusterPrep
