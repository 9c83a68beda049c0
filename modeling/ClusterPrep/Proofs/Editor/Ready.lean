import ClusterPrep.Proofs.Editor.Form
import ClusterPrep.Proofs.Editor.Refresh
import ClusterPrep.Proofs.Editor.Runs
import ClusterPrep.Proofs.Hpl.Check
import ClusterPrep.Proofs.Hpl.Reread

set_option autoImplicit false

/-
  What it means that the builder reports its output as ready. The configuration of the form has then
  passed every check, so that all its values are numbers that can be written; the output holds it
  unless one of them is infinite.
-/
namespace ClusterPrep

namespace Hpl

open Numeral

/-- A value that the checks take for a number is one as files give them. -/
theorem isFigure_of_isNumber {v : Value} (number : isNumber v = .ok true) : IsFigure v := by
  cases v with
  | int i =>
      rw [isNumber] at number
      cases within : Binary64.ofInt? i with
      | error e =>
          rw [within] at number
          cases number
      | ok x => exact Binary64.length_ofNat_of_ofInt? within
  | real x => trivial
  | _ => cases number

theorem isListed_of_isNumber {v : Value} (number : isNumber v = .ok true) : IsListed v := by
  have figure := isFigure_of_isNumber number
  cases v with
  | int i => exact figure
  | real x =>
      rintro rfl
      cases number
  | _ => exact absurd figure id

end Hpl

namespace Editor

open Hpl

namespace Form

variable {form : Form} {c : Config} (holds : form.config = .ok c)
include holds

/-- The output file of the form is missing or a word. -/
theorem outFile_of_config : c.outFile = .null ∨ ∃ w, Text.IsWord w ∧ c.outFile = .text w := by
  obtain ⟨v, value, held⟩ := value_of_config holds .outFile
  have held : c.outFile = v := held
  rw [Form.value] at value
  cases typed : (form.entry .outFile).asText with
  | error e =>
      rw [typed] at value
      cases value
  | ok s =>
      rw [typed] at value
      have value : fileName s = v := Except.ok.inj value
      rw [held, ← value, fileName]
      cases first : Text.words s with
      | nil => exact Or.inl rfl
      | cons w ws => exact Or.inr ⟨w, Text.isWord_of_mem_words (by rw [first]; simp), rfl⟩

/-- No other single value of the form is missing. -/
theorem single_of_config {f : Single} (other : f ≠ .outFile) : c.single f ≠ .null := by
  have coded (f : Coded) : c.single f.single ≠ .null := by
    obtain ⟨v, value, held⟩ := value_of_config holds (.coded f)
    have held : c.single f.single = v := held
    rw [Form.value] at value
    split at value
    · cases value
    · rename_i chosen
      cases value
      rw [held]
      exact chosen
  have amount (f : Amount) : c.single f.single ≠ .null := by
    obtain ⟨v, value, held⟩ := value_of_config holds (.amount f)
    have held : c.single f.single = v := held
    rw [held]
    rintro rfl
    rw [Form.value] at value
    cases typed : (form.entry (.amount f)).asText with
    | error e =>
        rw [typed] at value
        cases value
    | ok s =>
        simp only [typed, bind, Except.bind] at value
        cases read : numbers (Slot.amount f).label s with
        | error e =>
            rw [read] at value
            cases value
        | ok ns =>
            rw [read] at value
            dsimp only at value
            split at value
            · rename_i n
              cases n <;> cases value
            · cases value
  rcases exists_coded_or_amount other with ⟨g, rfl⟩ | ⟨g, rfl⟩
  · exact coded g
  · exact amount g

end Form

/-! ### Refreshes that end in readiness -/

theorem statusText_warning_ne_ready (message : Text) :
    statusText (warning message) ≠ statusText "HPL.dat is ready" := by
  have ready : statusText "HPL.dat is ready" = " HPL.dat is ready" := by decide
  refine statusText_warning_ne message ?_
  rw [ready]
  simp [Text.ofString, Text.ofChars]

section

variable {s t : Session} (done : refreshBuilder.run s = .ok ⟨⟩ t)
  (ready : t.builder.status = statusText "HPL.dat is ready")
include done ready

/-- The output is ready only if the form holds a configuration in which nothing is wrong, and that
    one is written. -/
theorem refreshBuilder_of_ready :
    ∃ c available, t.builder.form.config = .ok c ∧ Hpl.write c = .ok t.builder.output ∧
      Hpl.problems c available = .ok [] := by
  rcases refreshBuilder_cases done with ⟨e, -, -, rfl⟩ | ⟨c, output, -, holds, written, -⟩
  · exact absurd ready (statusText_warning_ne_ready _)
  · rcases refreshBuilder_checked holds written with ⟨e, failed⟩ | ⟨count, problems, checked, ended⟩
    · rw [failed] at done
      cases done
    · rw [ended] at done
      cases done
      refine ⟨c, countValue count, holds, written, ?_⟩
      cases problems with
      | nil => exact checked
      | cons problem problems => exact absurd ready (statusText_warning_ne_ready _)

/-- **When an output that is ready can be read.** The output that is reported as ready is that of
    the form; what is read of it is the configuration of the form, with the default name where the
    output file has none, exactly if no number in it is infinite. (A list whose length has more than
    4300 digits could not be read, either.) -/
theorem refreshBuilder_ready_iff :
    ∃ c, t.builder.form.config = .ok c ∧ Hpl.write c = .ok t.builder.output ∧
      (Hpl.read t.builder.output =
          .ok (some { c with outFile := orElse c.outFile (.text "HPL.out") }) ↔
        c.IsFinite ∧ ∀ f, (Numeral.ofNat (c.multi f).length).length ≤ Numeral.maxDigits) := by
  obtain ⟨c, available, holds, written, checked⟩ := refreshBuilder_of_ready done ready
  obtain ⟨multi, grids, single, -⟩ := problems_eq_nil_iff.mp checked
  have name := Form.outFile_of_config holds
  have present (f : Single) (other : f ≠ .outFile) : c.single f ≠ .null :=
    Form.single_of_config holds other
  have legible : c.Legible := by
    refine ⟨?_, fun f other => ?_, fun f v member => ?_⟩
    · rcases name with missing | ⟨w, word, named⟩
      · rw [missing]
        trivial
      · rw [named]
        exact word.2
    · rcases singleProblems_eq_nil_iff.mp (single f other) with missing | number
      · exact Or.inl missing
      · exact Or.inr (isFigure_of_isNumber number)
    · exact isListed_of_isNumber ((multiProblems_eq_nil_iff.mp (multi f)).2.1 v member)
  have completed : c.completed = { c with outFile := orElse c.outFile (.text "HPL.out") } := by
    refine Config.completed_eq present (name.imp_right ?_)
    rintro ⟨w, word, named⟩
    rw [named]
    simpa [Value.isSet] using word.1
  obtain ⟨output, same, again⟩ := legible.read_write_iff
  rw [written] at same
  cases same
  refine ⟨c, holds, written, ?_⟩
  rw [← completed, again]
  constructor
  · intro lasting
    exact ⟨lasting.finite, lasting.length⟩
  · rintro ⟨finite, short⟩
    exact ⟨finite, grids, short⟩

end

/-- The session after a refresh of the builder that succeeds. -/
def refreshed? (s : Session) : Option Session :=
  match refreshBuilder.run s with
  | .ok _ t => some t
  | .error _ _ => none

theorem run_of_refreshed? {s t : Session} (found : refreshed? s = some t) :
    refreshBuilder.run s = .ok ⟨⟩ t :=
  Step.run_of_ended? found

/-- The start after a threshold was typed in. -/
def withThreshold (entry : Text) : Session :=
  (plainStart.take (perform (.enter "hpl-threshold" (.text entry)))).2

theorem refreshBuilder_ready_withThreshold :
    ∃ t c, refreshBuilder.run (withThreshold "1e3") = .ok ⟨⟩ t ∧
      t.builder.status = statusText "HPL.dat is ready" ∧ t.builder.form.config = .ok c ∧
      Hpl.read t.builder.output =
        .ok (some { c with outFile := orElse c.outFile (.text "HPL.out") }) := by
  have passes : ((refreshed? (withThreshold "1e3")).any fun t =>
      decide (t.builder.status = statusText "HPL.dat is ready") &&
        t.builder.form.config.toOption.any fun c => decide c.IsFinite &&
          multis.all fun f =>
            decide ((Numeral.ofNat (c.multi f).length).length ≤ Numeral.maxDigits)) = true := by
    decide +kernel
  obtain ⟨t, ended, passes⟩ := (Option.any_eq_true _ _).mp passes
  obtain ⟨ready, passes⟩ := (Bool.and_eq_true _ _).mp passes
  obtain ⟨d, found, passes⟩ := (Option.any_eq_true _ _).mp passes
  obtain ⟨finite, short⟩ := (Bool.and_eq_true _ _).mp passes
  have done := run_of_refreshed? ended
  have ready := of_decide_eq_true ready
  obtain ⟨c, holds, -, again⟩ := refreshBuilder_ready_iff done ready
  rw [holds] at found
  have same : c = d := Option.some.inj found
  subst same
  refine ⟨t, c, done, ready, holds, again.mpr ⟨of_decide_eq_true finite, fun f => ?_⟩⟩
  exact of_decide_eq_true (List.all_eq_true.mp short f (mem_multis f))

/-- A threshold that is infinite is a number for the form and for the checks, but not for the
    reader of the file. -/
theorem refreshBuilder_ready_unread :
    ∃ t c, refreshBuilder.run (withThreshold "inf") = .ok ⟨⟩ t ∧
      t.builder.status = statusText "HPL.dat is ready" ∧ t.builder.form.config = .ok c ∧
      Hpl.read t.builder.output ≠
        .ok (some { c with outFile := orElse c.outFile (.text "HPL.out") }) := by
  have passes : ((refreshed? (withThreshold "inf")).any fun t =>
      decide (t.builder.status = statusText "HPL.dat is ready") &&
        (t.builder.form.config.toOption.any fun c => decide (IsInfinite c.threshold)) &&
          (Hpl.read t.builder.output).toOption.join.any fun d =>
            decide (¬ IsInfinite d.threshold)) = true := by
    decide +kernel
  obtain ⟨t, ended, passes⟩ := (Option.any_eq_true _ _).mp passes
  obtain ⟨passes, again⟩ := (Bool.and_eq_true _ _).mp passes
  obtain ⟨ready, holds⟩ := (Bool.and_eq_true _ _).mp passes
  obtain ⟨c, holds, infinite⟩ := (Option.any_eq_true _ _).mp holds
  obtain ⟨d, again, finite⟩ := (Option.any_eq_true _ _).mp again
  refine ⟨t, c, run_of_refreshed? ended, of_decide_eq_true ready, Attempt.ok_of_toOption holds, ?_⟩
  intro same
  rw [same] at again
  have same : { c with outFile := orElse c.outFile (.text "HPL.out") } = d := Option.some.inj again
  have finite : ¬ IsInfinite d.threshold := of_decide_eq_true finite
  rw [← same] at finite
  exact finite (of_decide_eq_true infinite)

end Editor

end ClusterPrep
