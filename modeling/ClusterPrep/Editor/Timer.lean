import ClusterPrep.Number.Binary64

set_option autoImplicit false

/-
  The timers that refresh the previews a while after an edit. A panel holds on to the timer that it
  started last, and stops that one when it starts another.
-/
namespace ClusterPrep.Editor

/-- The panels of the editor: the one that converts scripts and the one that builds HPL.dat. -/
inductive Panel
  | converter
  | builder
deriving DecidableEq, Repr

/-- A panel whose preview is to be refreshed, and after how many seconds. The handle tells the timer
    from all others. -/
structure Timer where
  panel : Panel
  delay : Binary64
  handle : Nat
deriving DecidableEq

/-- The timers that are pending, the oldest first; the handle that each panel holds, of a timer that
    may have gone off since; and the handle of the next timer. -/
structure Timers where
  pending : List Timer := []
  holds : Panel → Option Nat := fun _ => none
  next : Nat := 0

namespace Timers

/-- Stop the timer of a handle, if it is pending. -/
def stop (ts : Timers) (handle : Nat) : Timers :=
  { ts with pending := ts.pending.filter (·.handle ≠ handle) }

/-- Stop the timer that a panel holds, if it holds one. -/
def stopHeld (ts : Timers) (panel : Panel) : Timers :=
  match ts.holds panel with
  | some handle => ts.stop handle
  | none => ts

@[simp] theorem stopHeld_holds (ts : Timers) (panel : Panel) :
    (ts.stopHeld panel).holds = ts.holds := by
  rw [stopHeld]
  split <;> rfl

@[simp] theorem stopHeld_next (ts : Timers) (panel : Panel) :
    (ts.stopHeld panel).next = ts.next := by
  rw [stopHeld]
  split <;> rfl

/-- Start a timer that the panel holds. -/
def start (ts : Timers) (panel : Panel) (delay : Binary64) : Timers where
  pending := ts.pending ++ [⟨panel, delay, ts.next⟩]
  holds := fun other => if other = panel then some ts.next else ts.holds other
  next := ts.next + 1

/-- Start a timer in place of the one that the panel holds. -/
def restart (ts : Timers) (panel : Panel) (delay : Binary64) : Timers :=
  (ts.stopHeld panel).start panel delay

@[simp] theorem restart_holds (ts : Timers) (panel other : Panel) (delay : Binary64) :
    (ts.restart panel delay).holds other =
      if other = panel then some ts.next else ts.holds other := by
  rw [restart, start, stopHeld_next, stopHeld_holds]

@[simp] theorem restart_next (ts : Timers) (panel : Panel) (delay : Binary64) :
    (ts.restart panel delay).next = ts.next + 1 := by
  rw [restart, start, stopHeld_next]

/-- The timers once all have gone off. -/
def elapse (ts : Timers) : Timers := { ts with pending := [] }

end Timers

end ClusterPrep.Editor
