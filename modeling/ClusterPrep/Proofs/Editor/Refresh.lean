import ClusterPrep.Editor.Preview

set_option autoImplicit false

/-
  What a refresh does to the session it is run in. The output of the builder is written anew only
  if the form holds a configuration; over a form that does not, the last output stays.
-/
namespace ClusterPrep.Editor

/-! ### Steps that read or set one thing -/

namespace Step

variable {α : Type} (s : Session)

@[simp] theorem run_ofAttempt_ok (a : α) : (ofAttempt (.ok a)).run s = .ok a s := rfl

@[simp] theorem run_ofAttempt_error (e : Failure) :
    (ofAttempt (.error e : Attempt α)).run s = .error e s := rfl

@[simp] theorem run_orElse_ok (a : α) (instead : Failure → Step Unit) :
    (orElse (.ok a) instead).run s = .ok (some a) s := rfl

/-- Over a bad value, what is to be done instead is done. -/
theorem run_orElse_of_bad {e : Failure} (bad : e.kind = .badValue) (instead : Failure → Step Unit)
    {t : Session} (done : (instead e).run s = .ok ⟨⟩ t) :
    (orElse (.error e : Attempt α) instead).run s = .ok none t := by
  rw [orElse, if_pos bad, run_bind_of_ok done]
  rfl

theorem run_orElse_of_other {e : Failure} (other : e.kind ≠ .badValue)
    (instead : Failure → Step Unit) :
    (orElse (.error e : Attempt α) instead).run s = .error e s := by
  rw [orElse, if_neg other]
  rfl

end Step

/-- The session with its builder changed. -/
def Session.onBuilder (s : Session) (f : Builder → Builder) : Session :=
  { s with builder := f s.builder }

/-- The session with its converter changed. -/
def Session.onConverter (s : Session) (f : Converter → Converter) : Session :=
  { s with converter := f s.converter }

theorem run_setBuilder (f : Builder → Builder) (s : Session) :
    (setBuilder f).run s = .ok ⟨⟩ (s.onBuilder f) := rfl

theorem run_setConverter (f : Converter → Converter) (s : Session) :
    (setConverter f).run s = .ok ⟨⟩ (s.onConverter f) := rfl

/-- The builder with a new line of status. -/
def Builder.reporting (p : Builder) (message : Text) : Builder :=
  { p with status := statusText message }

/-- The builder with a new output, which its preview shows. -/
def Builder.showing (p : Builder) (output : Text) : Builder :=
  { p with output, preview := some output }

theorem run_setBuilderStatus (message : Text) (s : Session) :
    (setBuilderStatus message).run s = .ok ⟨⟩ (s.onBuilder (·.reporting message)) := rfl

theorem run_setConverterStatus (message : Text) (s : Session) :
    (setConverterStatus message).run s =
      .ok ⟨⟩ (s.onConverter fun p => { p with status := statusText message }) := rfl

theorem run_reportInBuilder (e : Failure) (s : Session) :
    (reportInBuilder e).run s = .ok ⟨⟩ (s.onBuilder (·.reporting (warning e.message))) := rfl

/-! ### Lines of status -/

theorem statusText_append (s t : Text) :
    statusText (s ++ t) = statusText s ++ Display.visible t :=
  Display.visible_append (' ' :: s) t

/-- A warning is told from other lines by its mark. -/
theorem statusText_warning_ne (message : Text) {other : Text}
    (unmarked : other[1]? ≠ some (.char '!')) : statusText (warning message) ≠ other := by
  have mark : statusText "! " = " ! " := by decide
  rintro rfl
  refine unmarked ?_
  rw [warning, statusText_append, mark]
  simp [Text.ofString, Text.ofChars]

/-- The line of status for what is wrong with a configuration. -/
def verdict : List Text → Text
  | problem :: _ => warning problem
  | [] => "HPL.dat is ready"

/-! ### Refreshing the builder -/

section

variable {s : Session}

/-- A form that does not hold a configuration has its bad place reported, and nothing else. -/
theorem refreshBuilder_of_bad {e : Failure} (failed : s.builder.form.config = .error e)
    (bad : e.kind = .badValue) :
    refreshBuilder.run s = .ok ⟨⟩ (s.onBuilder (·.reporting (warning e.message))) := by
  rw [refreshBuilder, Step.run_bind_of_ok (Step.run_get s)]
  dsimp only
  rw [failed, Step.run_bind_of_ok (Step.run_orElse_of_bad s bad _ (run_reportInBuilder e s))]
  rfl

theorem refreshBuilder_of_other {e : Failure} (failed : s.builder.form.config = .error e)
    (other : e.kind ≠ .badValue) : refreshBuilder.run s = .error e s := by
  rw [refreshBuilder, Step.run_bind_of_ok (Step.run_get s)]
  dsimp only
  rw [failed, Step.run_bind_of_error (Step.run_orElse_of_other s other _)]

theorem refreshBuilder_of_unwritten {c : Hpl.Config} {e : Failure}
    (holds : s.builder.form.config = .ok c) (failed : Hpl.write c = .error e) :
    refreshBuilder.run s = .error e s := by
  rw [refreshBuilder, Step.run_bind_of_ok (Step.run_get s)]
  dsimp only
  rw [holds, Step.run_bind_of_ok (Step.run_orElse_ok s c _)]
  dsimp only
  rw [failed]
  exact Step.run_bind_of_error (Step.run_ofAttempt_error s e)

/-- A configuration that is written becomes the output. Then its problems are looked for, and the
    first of them is reported. -/
theorem refreshBuilder_eq {c : Hpl.Config} {output : Text}
    (holds : s.builder.form.config = .ok c) (written : Hpl.write c = .ok output) :
    refreshBuilder.run s =
      match (do
          let count ← s.builder.processCount.unlessBadValue
          Hpl.problems c (countValue count)) with
      | .error e => .error e (s.onBuilder (·.showing output))
      | .ok problems =>
        .ok ⟨⟩ ((s.onBuilder (·.showing output)).onBuilder (·.reporting (verdict problems))) := by
  rw [refreshBuilder, Step.run_bind_of_ok (Step.run_get s)]
  dsimp only
  rw [holds, Step.run_bind_of_ok (Step.run_orElse_ok s c _)]
  dsimp only
  rw [written, Step.run_bind_of_ok (Step.run_ofAttempt_ok s output),
    Step.run_bind_of_ok (run_setBuilder _ s)]
  change EStateM.run _ (s.onBuilder (·.showing output)) = _
  generalize s.onBuilder (·.showing output) = t
  cases s.builder.processCount.unlessBadValue with
  | error e => exact Step.run_bind_of_error (Step.run_ofAttempt_error t e)
  | ok count =>
      rw [Step.run_bind_of_ok (Step.run_ofAttempt_ok t count)]
      change _ = match Hpl.problems c (countValue count) with | .error e => _ | .ok problems => _
      cases Hpl.problems c (countValue count) with
      | error e => exact Step.run_bind_of_error (Step.run_ofAttempt_error t e)
      | ok problems =>
          rw [Step.run_bind_of_ok (Step.run_ofAttempt_ok t problems)]
          cases problems with
          | nil => exact run_setBuilderStatus _ t
          | cons problem problems => exact run_setBuilderStatus _ t

theorem refreshBuilder_checked {c : Hpl.Config} {output : Text}
    (holds : s.builder.form.config = .ok c) (written : Hpl.write c = .ok output) :
    (∃ e, refreshBuilder.run s = .error e (s.onBuilder (·.showing output))) ∨
      ∃ count problems, Hpl.problems c (countValue count) = .ok problems ∧
        refreshBuilder.run s =
          .ok ⟨⟩ ((s.onBuilder (·.showing output)).onBuilder (·.reporting (verdict problems))) := by
  rw [refreshBuilder_eq holds written]
  cases s.builder.processCount.unlessBadValue with
  | error e => exact Or.inl ⟨e, rfl⟩
  | ok count =>
      simp only [bind, Except.bind]
      cases checked : Hpl.problems c (countValue count) with
      | error e => exact Or.inl ⟨e, rfl⟩
      | ok problems => exact Or.inr ⟨count, problems, checked, rfl⟩

theorem refreshBuilder_of_written {c : Hpl.Config} {output : Text}
    (holds : s.builder.form.config = .ok c) (written : Hpl.write c = .ok output) :
    (∃ e, refreshBuilder.run s = .error e (s.onBuilder (·.showing output))) ∨
      ∃ message, refreshBuilder.run s =
        .ok ⟨⟩ ((s.onBuilder (·.showing output)).onBuilder (·.reporting message)) := by
  rcases refreshBuilder_checked holds written with failed | ⟨count, problems, -, ended⟩
  · exact Or.inl failed
  · exact Or.inr ⟨verdict problems, ended⟩

/-- What a refresh of the builder that succeeds does: a form that holds a configuration is written,
    a form that does not is reported. -/
theorem refreshBuilder_cases {t : Session} (done : refreshBuilder.run s = .ok ⟨⟩ t) :
    (∃ e, s.builder.form.config = .error e ∧ e.kind = .badValue ∧
      t = s.onBuilder (·.reporting (warning e.message))) ∨
    ∃ c output message, s.builder.form.config = .ok c ∧ Hpl.write c = .ok output ∧
      t = (s.onBuilder (·.showing output)).onBuilder (·.reporting message) := by
  cases held : s.builder.form.config with
  | error e =>
      by_cases bad : e.kind = .badValue
      · rw [refreshBuilder_of_bad held bad] at done
        cases done
        exact Or.inl ⟨e, rfl, bad, rfl⟩
      · rw [refreshBuilder_of_other held bad] at done
        cases done
  | ok c =>
      cases written : Hpl.write c with
      | error e =>
          rw [refreshBuilder_of_unwritten held written] at done
          cases done
      | ok output =>
          rcases refreshBuilder_of_written held written with ⟨e, failed⟩ | ⟨message, ended⟩
          · rw [failed] at done
            cases done
          · rw [ended] at done
            cases done
            exact Or.inr ⟨c, output, message, rfl, written, rfl⟩

end

/-! ### Refreshing the converter -/

/-- The converter with the output for its script, which its preview shows unless it is empty. -/
def Converter.converted (p : Converter) : Converter :=
  let output := Batch.convert p.script
  { p with output, preview := if output.isEmpty then none else some (Display.script output) }

/-- A refresh of the converter converts the script and says something in the line of status. -/
theorem refreshConverter_cases {s t : Session} (done : refreshConverter.run s = .ok ⟨⟩ t) :
    ∃ status, t = s.onConverter fun p => { p.converted with status } := by
  rw [refreshConverter, Step.run_bind_of_ok (Step.run_get s)] at done
  dsimp only at done
  rw [Step.run_bind_of_ok (run_setConverter _ s)] at done
  split at done
  · rename_i empty
    rw [run_setConverterStatus] at done
    cases done
    refine ⟨statusText "Paste a PBS script on the left", ?_⟩
    simp only [Session.onConverter, Converter.converted, if_pos empty]
  · rename_i filled
    rw [Step.run_bind_of_ok (run_setConverter _ _)] at done
    cases summary : (Batch.request s.converter.script).summary with
    | error e =>
        rw [summary, Step.run_bind_of_error (Step.run_ofAttempt_error _ e)] at done
        cases done
    | ok message =>
        rw [summary, Step.run_bind_of_ok (Step.run_ofAttempt_ok _ message),
          run_setConverterStatus] at done
        cases done
        refine ⟨statusText message, ?_⟩
        simp only [Session.onConverter, Converter.converted, if_neg filled]

end ClusterPrep.Editor
