import ClusterPrep.Text.Quoted
import ClusterPrep.Text.Utf8

set_option autoImplicit false

/-
  Everything that can go wrong, by cause. `Failure.message` words a cause for people and
  `Failure.kind` tells which causes belong together: operations that go on after a bad value do so
  for every failure of that kind and for no other.
-/
namespace ClusterPrep

/-- Why a file could not be read or written. -/
inductive FileError
  | missing
  | isDirectory
  | notDirectory
  | alreadyExists
  | nameTooLong
deriving DecidableEq, Repr

/-- The system's words for a file error. -/
def FileError.message : FileError → String
  | .missing => "No such file or directory"
  | .isDirectory => "Is a directory"
  | .notDirectory => "Not a directory"
  | .alreadyExists => "File exists"
  | .nameTooLong => "File name too long"

/-- The kinds of failure. -/
inductive FailureKind
  | badValue
  | badType
  | notText
  | tooLarge
  | zeroDivision
  | unknownName
  | noSuchRow
  | unencodable
  | tooDeep
  | noHome
  | file (error : FileError)
deriving DecidableEq, Repr

/-- The causes of failure. -/
inductive Failure
  /-- A text that is no whole number. -/
  | notInteger (given : Text)
  /-- A text that is no real number. -/
  | notReal (given : Text)
  /-- A numeral with more digits than are read. -/
  | longNumeral (digits : Nat)
  /-- A whole number with more digits than are written. -/
  | longInteger
  /-- A whole number of a real that is not a number. -/
  | integerOfNan
  /-- A whole number of an infinite real. -/
  | integerOfInfinity
  /-- A whole number beyond the reals. -/
  | realOfLargeInteger
  /-- A quotient of whole numbers beyond the reals. -/
  | largeQuotient
  | divisionByZero
  | realDivisionByZero
  | floorDivisionByZero
  | realFloorDivisionByZero
  /-- Clock fields of a number that is not whole. -/
  | clockOfReal
  | emptyTime
  | badTime (given : Text)
  | negativeTime
  | badMemory (given : Text)
  | emptyProcessCount
  | badProcessCount (given : Text)
  | zeroProcessCount
  | emptyNumberList
  | notNumber (token : Text)
  /-- The value of the form's field `label` cannot be used. -/
  | field (label : String) (cause : Failure)
  /-- The form's field `label` holds several numbers or none. -/
  | notSingle (label : String)
  /-- No choice is made for the form's field `label`. -/
  | notChosen (label : String)
  | gridOfNonPositive (shown : Text)
  | negativeMemory (shown : Text)
  | badMemoryRatio (shown : Text)
  | emptyPresetName
  | longPresetName (limit : Nat)
  | badPresetName (given : Text)
  /-- A value of a kind that cannot be looked up among codes. -/
  | unhashable (kind : String)
  /-- A value of a kind that cannot be padded. -/
  | unpaddable (kind : String)
  /-- Two values that have no order. -/
  | unordered (relation left right : String)
  /-- Two values that the operation does not take. -/
  | badOperands (operation left right : String)
  /-- A value that does not stand for a whole number. -/
  | notIntegral (kind : String)
  /-- A value that stands for no number. -/
  | notNumeric (kind : String)
  /-- A value that is no text, where a text is wanted. -/
  | notText (kind : String)
  /-- A text whose brackets are nested too deeply, the last that of a value of this kind. -/
  | tooDeep (kind : String)
  /-- A path with a null character. -/
  | nullInPath
  /-- A text that no bytes stand for, as it holds halves of surrogate pairs. -/
  | halves (stray : Text.Halves)
  /-- Bytes that stand for no text. -/
  | strayBytes (stray : Text.StrayBytes)
  /-- A path that begins in the home directory of nobody known. -/
  | noHome
  | noRow
  | noWidget (name : Text)
  | noCommand (name : Text)
  /-- A command that takes `needed` arguments and was called with another number of them. -/
  | wrongCount (name : Text) (needed given : Nat)
  | file (error : FileError)
deriving DecidableEq, Repr

namespace Failure

/-- The kind of a failure. -/
def kind : Failure → FailureKind
  | integerOfInfinity | realOfLargeInteger | largeQuotient => .tooLarge
  | divisionByZero | realDivisionByZero | floorDivisionByZero | realFloorDivisionByZero =>
    .zeroDivision
  | unhashable _ | unpaddable _ | unordered .. | badOperands .. | notIntegral _
  | notNumeric _ | wrongCount .. => .badType
  | notText _ => .notText
  | noWidget _ | noCommand _ => .unknownName
  | noRow => .noSuchRow
  | tooDeep _ => .tooDeep
  | halves _ => .unencodable
  | noHome => .noHome
  | file e => .file e
  | _ => .badValue

/-- The words for a failure. -/
def message : Failure → Text
  | notInteger s =>
    "invalid literal for int() with base 10: " ++ (Text.quoted s).take 200
  | notReal s => "could not convert string to float: " ++ Text.quoted s
  | longNumeral n =>
    s!"Exceeds the limit (4300 digits) for integer string conversion: value has {n} digits; " ++
      "use sys.set_int_max_str_digits() to increase the limit"
  | longInteger =>
    "Exceeds the limit (4300 digits) for integer string conversion; " ++
      "use sys.set_int_max_str_digits() to increase the limit"
  | integerOfNan => "cannot convert float NaN to integer"
  | integerOfInfinity => "cannot convert float infinity to integer"
  | realOfLargeInteger => "int too large to convert to float"
  | largeQuotient => "integer division result too large for a float"
  | divisionByZero => "division by zero"
  | realDivisionByZero => "float division by zero"
  | floorDivisionByZero => "integer division or modulo by zero"
  | realFloorDivisionByZero => "float floor division by zero"
  | clockOfReal => "Unknown format code 'd' for object of type 'float'"
  | emptyTime => "Empty time string"
  | badTime s => "Invalid time format: " ++ Text.quoted s
  | negativeTime => "Negative seconds"
  | badMemory s => "Invalid memory format: " ++ Text.quoted s
  | emptyProcessCount => "Process count must not be empty"
  | badProcessCount s => "Invalid process count: " ++ Text.quoted s
  | zeroProcessCount => "Process count must be at least 1"
  | emptyNumberList => "List must not be empty"
  | notNumber s => "Not a number: " ++ Text.quoted s
  | field label cause => label ++ ": " ++ cause.message
  | notSingle label => label ++ ": expected a single number"
  | notChosen label => label ++ ": select a value"
  | gridOfNonPositive s => "Process count must be positive, got " ++ s
  | negativeMemory s => "Memory must not be negative, got " ++ s
  | badMemoryRatio s => "Memory ratio must be in (0, 1], got " ++ s
  | emptyPresetName => "Preset name must not be empty"
  | longPresetName n => s!"Preset name too long (max {n} chars)"
  | badPresetName s =>
    "Invalid preset name: " ++ Text.quoted s ++ " (letters, digits, spaces, '_', '-' and '.')"
  | unhashable kind => s!"unhashable type: '{kind}'"
  | unpaddable kind => s!"unsupported format string passed to {kind}.__format__"
  | unordered relation l r => s!"'{relation}' not supported between instances of '{l}' and '{r}'"
  | badOperands operation l r => s!"unsupported operand type(s) for {operation}: '{l}' and '{r}'"
  | notIntegral kind => s!"'{kind}' object cannot be interpreted as an integer"
  | notNumeric kind => s!"'{kind}' object stands for no number"
  | notText kind => s!"'{kind}' object has no attribute 'strip'"
  | tooDeep kind =>
    s!"maximum recursion depth exceeded while decoding a JSON {kind} from a unicode string"
  | nullInPath => "embedded null byte"
  | halves ⟨start, count, first⟩ =>
    let which := if count = 1 then s!"character {(Text.quoted [first]).string} in position {start}"
      else s!"characters in position {start}-{start + count - 1}"
    s!"'utf-8' codec can't encode {which}: surrogates not allowed"
  | strayBytes ⟨start, count, first, fault⟩ =>
    let value := (Text.hexDigits 2 first.toNat).string
    let which := if count = 1 then s!"byte 0x{value} in position {start}"
      else s!"bytes in position {start}-{start + count - 1}"
    s!"'utf-8' codec can't decode {which}: {fault.message}"
  | noHome => "Could not determine home directory."
  | noRow => "list index out of range"
  | noWidget name => "no widget #" ++ name
  | noCommand name => "no action " ++ name
  | wrongCount name needed given =>
    s!"{name.string} takes {needed} arguments, not {given}"
  | file e => e.message

end Failure

/-- A computation that can fail. -/
abbrev Attempt (α : Type) := Except Failure α

/-- The value, unless the computation failed over a bad value; other failures remain. -/
def Attempt.unlessBadValue {α : Type} (x : Attempt α) : Attempt (Option α) :=
  match x with
  | .ok a => .ok (some a)
  | .error e => if e.kind = .badValue then .ok none else .error e

end ClusterPrep
