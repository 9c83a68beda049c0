import ClusterPrep.Batch.Script
import ClusterPrep.Batch.Summary
import ClusterPrep.Proofs.Quantity.Memory
import ClusterPrep.Proofs.Quantity.Walltime

set_option autoImplicit false

/-
  Which requests are summed up in a line. A time or an amount of memory that is not understood is
  named in the line. But the total of the tasks is written whatever its length, and kilobytes beyond
  the reals are not taken for a bad value.
-/
namespace ClusterPrep.Batch

variable {v : Option Text} {part : Text → Attempt Text}

theorem exists_partIfSet_iff : (∃ parts, partIfSet v part = .ok parts) ↔
    ∀ s, v = some s → s ≠ [] → ∃ t, part s = .ok t := by
  cases v with
  | none => exact iff_of_true ⟨[], rfl⟩ fun s same => by cases same
  | some s =>
      cases s with
      | nil =>
          exact iff_of_true ⟨[], rfl⟩ fun s same filled => by cases same; exact absurd rfl filled
      | cons c s =>
          have single := Attempt.exists_bind_iff (x := part (c :: s)) (f := fun t => pure [t])
            fun t => iff_of_true ⟨[t], rfl⟩ trivial
          rw [and_true] at single
          refine single.trans ⟨fun done t same _ => ?_, fun all => all _ rfl (List.cons_ne_nil c s)⟩
          cases same
          exact done

/-- A part is named as not understood for a bad value only. -/
theorem exists_understood_iff {what : String} {s : Text} {x : Attempt Text} :
    (∃ t, understood what s x = .ok t) ↔ ∀ e, x = .error e → e.kind = .badValue := by
  rw [understood]
  cases x with
  | ok t => exact iff_of_true ⟨t, rfl⟩ fun e same => by cases same
  | error e =>
      rw [Attempt.unlessBadValue]
      constructor
      · rintro ⟨t, done⟩ e' same
        cases same
        by_contra other
        rw [if_neg other] at done
        cases done
      · intro bad
        rw [if_pos (bad e rfl)]
        exact ⟨_, rfl⟩

/-! ### Requests within limits -/

/-- The total of the tasks is not too long to be written, and the amount of memory is within the
    reals if these are needed for it. -/
structure Resources.WithinLimits (r : Resources) : Prop where
  tasks : ∀ n, r.totalTasks = some n → n.natAbs < 10 ^ Numeral.maxDigits
  memory : ∀ s, r.memory = some s → s ≠ [] → Memory.WithinReals s

/-- A time is always answered, as one that is read and cannot be written is a bad value too. -/
theorem kind_of_time {s : Text} {e : Failure}
    (refused : (do return "walltime " ++ (← Walltime.write (← Walltime.read s)) : Attempt Text) =
      .error e) : e.kind = .badValue := by
  rcases Attempt.error_of_bind refused with refused | ⟨i, -, refused⟩
  · exact Walltime.kind_of_read refused
  · rcases Attempt.error_of_bind refused with refused | ⟨t, -, refused⟩
    · exact Walltime.kind_of_write refused
    · cases refused

theorem kind_of_memory_iff {s : Text} :
    (∀ e, (do return "mem " ++ (← Numeral.writeInt (← Memory.read s)) ++ " MB" : Attempt Text) =
      .error e → e.kind = .badValue) ↔ Memory.WithinReals s := by
  rw [← Memory.kind_of_read_iff]
  constructor
  · intro bad e refused
    refine bad e ?_
    rw [refused]
    rfl
  · intro bad e refused
    rcases Attempt.error_of_bind refused with refused | ⟨i, -, refused⟩
    · exact bad e refused
    · rcases Attempt.error_of_bind refused with refused | ⟨t, -, refused⟩
      · exact Numeral.kind_of_writeInt refused
      · cases refused

/-- **Which requests are summed up.** A request has a summary exactly if it is within limits. -/
theorem exists_summary_iff (r : Resources) : (∃ t, r.summary = .ok t) ↔ r.WithinLimits := by
  rw [Resources.summary]
  refine (Attempt.exists_bind_iff fun nodes => ?_).trans (and_iff_right ?_)
  swap
  · exact exists_partIfSet_iff.mpr fun s _ _ => ⟨_, rfl⟩
  refine (Attempt.exists_bind_iff fun tasks => ?_).trans (and_iff_right ?_)
  swap
  · exact exists_partIfSet_iff.mpr fun s _ _ => ⟨_, rfl⟩
  extract_lets next
  have rest (total : List Text) : (∃ t, next total = .ok t) ↔
      ∀ s, r.memory = some s → s ≠ [] → Memory.WithinReals s := by
    refine (Attempt.exists_bind_iff fun time => ?_).trans (and_iff_right ?_)
    swap
    · exact exists_partIfSet_iff.mpr fun s _ _ => exists_understood_iff.mpr fun e => kind_of_time
    refine (Attempt.exists_bind_iff fun memory => iff_of_true ?_ trivial).trans
      ((iff_of_eq (and_true _)).trans ?_)
    · dsimp only
      split
      · exact ⟨_, rfl⟩
      · exact ⟨_, rfl⟩
    · rw [exists_partIfSet_iff]
      simp only [exists_understood_iff, kind_of_memory_iff]
  cases total : r.totalTasks with
  | none =>
      refine (rest []).trans ⟨fun memory => ⟨fun n same => ?_, memory⟩, fun limits => limits.memory⟩
      rw [total] at same
      cases same
  | some n =>
      refine (Attempt.exists_bind_iff fun t => rest [t ++ " task(s) total"]).trans ?_
      rw [Numeral.exists_writeInt_iff]
      constructor
      · rintro ⟨short, memory⟩
        refine ⟨fun m same => ?_, memory⟩
        rw [total] at same
        cases same
        exact short
      · intro limits
        exact ⟨limits.tasks n total, limits.memory⟩

/-- A script that asks for more kilobytes than there are reals. -/
def largeScript : Text := "#PBS -l mem=1" ++ Text.copies 309 '0' ++ "kb"

theorem not_exists_summary_largeScript : ¬ ∃ t, (request largeScript).summary = .ok t := by
  have failed : (request largeScript).summary = .error .realOfLargeInteger := by decide +kernel
  rintro ⟨t, done⟩
  rw [failed] at done
  cases done

end ClusterPrep.Batch
