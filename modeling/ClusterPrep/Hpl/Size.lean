import ClusterPrep.Value.Printer

set_option autoImplicit false

/-
  The problem size for a given memory: the largest order of a square matrix of eight-byte reals
  that fits into a share of the memory, rounded down to a multiple of the block size. The steps do
  not depend on the arithmetic that they are carried out in.
-/
namespace ClusterPrep.Hpl

/-- An arithmetic to compute sizes in. Quotients and roots are reals, which the numbers in general
    need not be. -/
structure Arithmetic (num real : Type) where
  whole : Int → num
  lt : num → num → Bool
  le : num → num → Bool
  mul : num → num → Attempt num
  div : num → num → Attempt real
  sqrt : real → real
  floor : real → Attempt Int
  floorDiv : num → num → Attempt num

/-- The arithmetic in which each operation on reals is rounded. -/
def Arithmetic.rounded : Arithmetic Number Binary64 where
  whole := Number.int
  lt := Number.lt
  le := Number.le
  mul := Number.mul
  div := Number.div
  sqrt := Binary64.sqrt
  floor := Binary64.floor
  floorDiv := Number.floorDiv

/-- Something to compute with: the number that it is or counts as, the word for its kind and the
    text that it is shown by. -/
structure Operand (num : Type) where
  number? : Option num
  kindName : String
  shown : Attempt Text

/-- A value to compute with. -/
def Operand.ofValue (v : Value) : Operand Number := ⟨v.number?, v.kindName, v.shown⟩

section

variable {num real : Type}

/-- The number to be compared with one of another kind, which is on the left if `flip`. -/
def Operand.compared (o : Operand num) (relation other : String) (flip : Bool) : Attempt num :=
  match o.number? with
  | some n => return n
  | none => throw (if flip then .unordered relation other o.kindName
      else .unordered relation o.kindName other)

theorem Operand.compared_of_number {o : Operand num} {n : num} (number : o.number? = some n)
    (relation other : String) (flip : Bool) : o.compared relation other flip = .ok n := by
  rw [compared, number]
  rfl

/-- The bytes of a gigabyte. -/
def gigabyte : Int := 1024 * 1024 * 1024

namespace Arithmetic

variable (arithmetic : Arithmetic num real)

/-- The order of the largest matrix for so many bytes. -/
def orderFor (bytes : num) : Attempt Int := do
  let cells ← arithmetic.div bytes (arithmetic.whole 8)
  arithmetic.floor (arithmetic.sqrt cells)

/-- The problem size for `memory` gigabytes, of which the share `ratio` is used, as a multiple of
    `multiple`. -/
def sizeFor (memory ratio multiple : Operand num) : Attempt num := do
  let m ← memory.compared "<" "int" false
  if arithmetic.lt m (arithmetic.whole 0) then throw (.negativeMemory (← memory.shown))
  let r ← ratio.compared "<" "int" true
  if !(arithmetic.lt (arithmetic.whole 0) r && arithmetic.le r (arithmetic.whole 1)) then
    throw (.badMemoryRatio (← ratio.shown))
  let bytes ← arithmetic.mul (← arithmetic.mul m (arithmetic.whole gigabyte)) r
  let n ← arithmetic.orderFor bytes
  match multiple.number? with
  | some k => arithmetic.mul (← arithmetic.floorDiv (arithmetic.whole n) k) k
  | none => throw (.badOperands "//" "int" multiple.kindName)

end Arithmetic

end

/-- The problem size for values of any kind. -/
def suggestSize (memory ratio multiple : Value) : Attempt Number :=
  Arithmetic.rounded.sizeFor (.ofValue memory) (.ofValue ratio) (.ofValue multiple)

end ClusterPrep.Hpl
