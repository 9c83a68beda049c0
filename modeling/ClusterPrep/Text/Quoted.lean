import ClusterPrep.Text.Basic
import ClusterPrep.Text.Printable

set_option autoImplicit false

/-
  Quoted texts as messages show them: between single quotes, or between double quotes when the text
  holds a single quote and no double one, with escapes for the backslash, the quote and every
  character without a visible form.
-/
namespace ClusterPrep.Text

/-- The last `width` hexadecimal digits of `n`, small letters. -/
def hexDigits : Nat → Nat → Text
  | 0, _ => []
  | width + 1, n => hexDigits width (n / 16) ++ [.char (Nat.digitChar (n % 16))]

/-- The escape of a character without a visible form: two, four or eight hexadecimal digits. -/
def hexEscape (c : CodePoint) : Text :=
  if c.toNat < 0x100 then '\\' :: 'x' :: hexDigits 2 c.toNat
  else if c.toNat < 0x10000 then '\\' :: 'u' :: hexDigits 4 c.toNat
  else '\\' :: 'U' :: hexDigits 8 c.toNat

/-- A character between the quotes `quote`. -/
def quotedChar (quote c : CodePoint) : Text :=
  if c = quote ∨ c = '\\' then ['\\', c]
  else if c = '\n' then ['\\', 'n']
  else if c = '\r' then ['\\', 'r']
  else if c = '\t' then ['\\', 't']
  else if isPrintable c then [c]
  else hexEscape c

/-- Double quotes only around a text with single quotes and without double ones. -/
def quoteFor (s : Text) : CodePoint :=
  if s.contains '\'' && !s.contains '"' then '"' else '\''

/-- The text between quotes. -/
def quoted (s : Text) : Text :=
  let q := quoteFor s
  q :: s.flatMap (quotedChar q) ++ [q]

end ClusterPrep.Text
