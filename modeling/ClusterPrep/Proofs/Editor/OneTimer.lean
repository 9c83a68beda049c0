import ClusterPrep.Editor.Timer
import Mathlib.Data.List.Nodup

set_option autoImplicit false

/-
  No panel has more than one pending timer. A panel stops no more than the one timer that it holds;
  but that is the only one of its own that can be pending, as every timer that it starts is the one
  that it holds from then on.
-/
namespace ClusterPrep.Editor

namespace Timers

/-- The handles of timers tell them apart, and a panel holds the one of its own that is pending. -/
structure Tracked (ts : Timers) : Prop where
  /-- A timer that is pending is the one that its panel holds. -/
  held : ∀ t ∈ ts.pending, ts.holds t.panel = some t.handle
  /-- What a panel holds, also once it has gone off, is not the handle of the next timer. -/
  given : ∀ panel handle, ts.holds panel = some handle → handle < ts.next
  own : ∀ panel other handle, ts.holds panel = some handle → ts.holds other = some handle →
    panel = other
  distinct : (ts.pending.map Timer.handle).Nodup

theorem tracked_empty : Tracked {} where
  held _ member := absurd member List.not_mem_nil
  given _ _ holds := nomatch holds
  own _ _ _ holds := nomatch holds
  distinct := List.nodup_nil

namespace Tracked

variable {ts : Timers} (tracked : ts.Tracked)
include tracked

theorem elapse : ts.elapse.Tracked where
  held _ member := absurd member List.not_mem_nil
  given := tracked.given
  own := tracked.own
  distinct := List.nodup_nil

/-- A panel that stops the timer that it holds has none left, and stops none of another panel. -/
theorem pending_stopHeld (panel : Panel) :
    (ts.stopHeld panel).pending = ts.pending.filter (·.panel ≠ panel) := by
  rw [stopHeld]
  cases holds : ts.holds panel with
  | none =>
      symm
      apply List.filter_eq_self.mpr
      intro t member
      have held := tracked.held t member
      simp only [ne_eq, decide_not, Bool.not_eq_true', decide_eq_false_iff_not]
      intro same
      rw [same, holds] at held
      cases held
  | some handle =>
      show ts.pending.filter (·.handle ≠ handle) = _
      apply List.filter_congr
      intro t member
      have held := tracked.held t member
      have alike : t.handle = handle ↔ t.panel = panel := by
        constructor
        · intro same
          rw [same] at held
          exact tracked.own t.panel panel handle held holds
        · intro same
          rw [same, holds] at held
          exact (Option.some.inj held).symm
      simp only [ne_eq, alike]

theorem pending_restart (panel : Panel) (delay : Binary64) :
    (ts.restart panel delay).pending =
      ts.pending.filter (·.panel ≠ panel) ++ [⟨panel, delay, ts.next⟩] := by
  rw [restart, start, tracked.pending_stopHeld, stopHeld_next]

/-- No panel holds the handle of the next timer. -/
theorem holds_ne_next (panel : Panel) : ts.holds panel ≠ some ts.next :=
  fun holds => absurd (tracked.given panel ts.next holds) (Nat.lt_irrefl _)

theorem restart (panel : Panel) (delay : Binary64) : (ts.restart panel delay).Tracked := by
  have pending := tracked.pending_restart panel delay
  constructor
  case held =>
    intro t member
    rw [pending, List.mem_append, List.mem_filter, List.mem_singleton] at member
    rw [restart_holds]
    rcases member with ⟨member, other⟩ | rfl
    · rw [if_neg (by simpa using other)]
      exact tracked.held t member
    · rw [if_pos rfl]
  case given =>
    intro other handle holds
    rw [restart_holds] at holds
    rw [restart_next]
    split at holds
    · cases holds
      exact Nat.lt_succ_self _
    · exact Nat.lt_succ_of_lt (tracked.given other handle holds)
  case own =>
    intro first second handle holds holds'
    rw [restart_holds] at holds holds'
    split at holds <;> split at holds'
    · exact ‹first = panel›.trans ‹second = panel›.symm
    · exact absurd (holds'.trans holds.symm) (tracked.holds_ne_next second)
    · exact absurd (holds.trans holds'.symm) (tracked.holds_ne_next first)
    · exact tracked.own first second handle holds holds'
  case distinct =>
    rw [pending, List.map_append]
    apply List.nodup_append.mpr
    refine ⟨tracked.distinct.sublist (List.filter_sublist.map _), by simp, ?_⟩
    intro left kept right added same
    obtain ⟨t, member, rfl⟩ := List.mem_map.mp kept
    have held := tracked.held t (List.mem_filter.mp member).1
    rw [same, List.mem_singleton.mp added] at held
    exact tracked.holds_ne_next t.panel held

/-- **No panel has more than one pending timer.** -/
theorem length_le_one (panel : Panel) : (ts.pending.filter (·.panel = panel)).length ≤ 1 := by
  have distinct : ((ts.pending.filter (·.panel = panel)).map Timer.handle).Nodup :=
    tracked.distinct.sublist (List.filter_sublist.map _)
  have held (t : Timer) (member : t ∈ ts.pending.filter (·.panel = panel)) :
      ts.holds panel = some t.handle := by
    obtain ⟨member, own⟩ := List.mem_filter.mp member
    rw [← of_decide_eq_true own]
    exact tracked.held t member
  generalize ts.pending.filter (·.panel = panel) = own at distinct held
  match own with
  | [] => exact Nat.zero_le 1
  | [_] => exact Nat.le_refl 1
  | first :: second :: rest =>
      have same := (held first (by simp)).symm.trans (held second (by simp))
      simp [Option.some.inj same] at distinct

end Tracked

end Timers

end ClusterPrep.Editor
