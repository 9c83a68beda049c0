import ClusterPrep.Value.Printer

set_option autoImplicit false

/-
  The settings of the program and how a value becomes one.
-/
namespace ClusterPrep

/-- The settings. -/
structure Settings where
  /-- Seconds between an edit and the refreshed preview. -/
  previewDelay : Binary64 := .ofDecimal false 3 (-1)
  /-- The share of the memory that a problem may fill. -/
  memoryRatio : Binary64 := .ofDecimal false 8 (-1)
  /-- The block size that problem sizes are multiples of. -/
  blockMultiple : Int := 128
  processCount : Int := 4
  /-- The memory of all nodes in gigabytes. -/
  memory : Binary64 := .ofInt 16
deriving DecidableEq

/-- One of the settings. -/
inductive Setting
  | previewDelay | memoryRatio | blockMultiple | processCount | memory
deriving DecidableEq, Repr

namespace Setting

/-- All settings, in the order in which they are read. -/
def all : List Setting := [.previewDelay, .memoryRatio, .blockMultiple, .processCount, .memory]

/-- The table of the settings file that holds a setting. -/
def table : Setting → Text
  | .previewDelay => "ui"
  | _ => "hpl"

/-- The name of a setting in its table. -/
def key : Setting → Text
  | .previewDelay => "preview_debounce"
  | .memoryRatio => "memory_ratio"
  | .blockMultiple => "n_multiple"
  | .processCount => "process_count"
  | .memory => "memory_gb"

end Setting

/-- A value as a real: a number, a truth value, or the text of a real. -/
def Value.castReal (v : Value) : Attempt Binary64 :=
  match v with
  | .text s => Numeral.readReal s
  | v =>
    match v.number? with
    | some n => n.toReal
    | none => throw (.notNumeric v.kindName)

/-- A value as a whole number: a number without its fraction, a truth value, or the text of a whole
    number. -/
def Value.castInt (v : Value) : Attempt Int :=
  match v with
  | .text s => Numeral.readInt s
  | v =>
    match v.number? with
    | some (.int i) => return i
    | some (.real x) => x.truncate
    | none => throw (.notNumeric v.kindName)

namespace Settings

/-- The settings with one of them set from a value. -/
def assign (s : Settings) (v : Value) : Setting → Attempt Settings
  | .previewDelay => return { s with previewDelay := ← v.castReal }
  | .memoryRatio => return { s with memoryRatio := ← v.castReal }
  | .blockMultiple => return { s with blockMultiple := ← v.castInt }
  | .processCount => return { s with processCount := ← v.castInt }
  | .memory => return { s with memory := ← v.castReal }

/-- A setting as a value. -/
def get (s : Settings) : Setting → Value
  | .previewDelay => .real s.previewDelay
  | .memoryRatio => .real s.memoryRatio
  | .blockMultiple => .int s.blockMultiple
  | .processCount => .int s.processCount
  | .memory => .real s.memory

/-- The settings with one of them as it is by default. -/
def reset (s : Settings) : Setting → Settings
  | .previewDelay => { s with previewDelay := ({} : Settings).previewDelay }
  | .memoryRatio => { s with memoryRatio := ({} : Settings).memoryRatio }
  | .blockMultiple => { s with blockMultiple := ({} : Settings).blockMultiple }
  | .processCount => { s with processCount := ({} : Settings).processCount }
  | .memory => { s with memory := ({} : Settings).memory }

/-- Whether a setting lies in its range. -/
def inRange (s : Settings) : Setting → Bool
  | .previewDelay => Binary64.le .zero s.previewDelay && s.previewDelay.le (.ofInt 10)
  | .memoryRatio => Binary64.lt .zero s.memoryRatio && s.memoryRatio.le (.ofInt 1)
  | .blockMultiple => 1 ≤ s.blockMultiple
  | .processCount => 1 ≤ s.processCount
  | .memory => Binary64.le .zero s.memory

end Settings

end ClusterPrep
