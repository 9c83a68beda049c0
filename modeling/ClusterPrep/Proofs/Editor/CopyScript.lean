import ClusterPrep.Proofs.Editor.Previews

set_option autoImplicit false

/-
  Copying the converted script. What is copied is the output of the last refresh. That is what the
  script is converted to unless the script was edited since and the refresh is still to come.
-/
namespace ClusterPrep.Editor

/-- What copying ought to do: the clipboard holds what the script is converted to, or that is empty,
    nothing is copied and the status says so. -/
def CopiesCurrent (s : Session) (result : EStateM.Result Failure Session Unit) : Prop :=
  ∃ t, result = .ok ⟨⟩ t ∧
    (t.clipboard = some (Batch.convert s.converter.script) ∨
      Batch.convert s.converter.script = [] ∧ t.clipboard = s.clipboard ∧
        t.converter.status = statusText (warning "Nothing to copy"))

/-- The last output is not what the script is converted to, and it is not the case that nothing is
    copied over a clipboard that holds this already. -/
def Outdated (s : Session) : Prop :=
  s.converter.output ≠ Batch.convert s.converter.script ∧
    ¬ (s.converter.output = [] ∧ s.clipboard = some (Batch.convert s.converter.script))

/-- The events that copy the script. -/
inductive Copies (s : Session) : Event → Prop
  | pressed (clear : s.dialogs = []) : Copies s (.press "btn-copy-slurm")
  | called (clear : s.dialogs = []) : Copies s (.call "copy_output" [])

variable {s : Session} {event : Event}

/-! ### One copy -/

theorem copyScript_of_empty (empty : s.converter.output = []) :
    copyScript.run s = .ok ⟨⟩
      (s.onConverter fun p => { p with status := statusText (warning "Nothing to copy") }) := by
  rw [copyScript, Step.run_bind_of_ok (Step.run_get s), empty]
  rfl

theorem copyScript_of_filled (filled : s.converter.output ≠ []) :
    copyScript.run s = .ok ⟨⟩
      ({ s with clipboard := some s.converter.output }.onConverter fun p =>
        { p with status := statusText "Slurm script copied to clipboard" }) := by
  have shown : s.converter.output.isEmpty = false := by simpa using filled
  rw [copyScript, Step.run_bind_of_ok (Step.run_get s)]
  dsimp only
  rw [shown, if_neg Bool.false_ne_true]
  rfl

theorem copyScript_copiesCurrent_iff (s : Session) :
    CopiesCurrent s (copyScript.run s) ↔ ¬ Outdated s := by
  by_cases empty : s.converter.output = []
  · rw [copyScript_of_empty empty]
    constructor
    · rintro ⟨t, ended, copied | ⟨nothing, -⟩⟩ ⟨apart, other⟩
      · cases ended
        exact other ⟨empty, copied⟩
      · exact apart (empty.trans nothing.symm)
    · intro current
      refine ⟨_, rfl, ?_⟩
      by_cases nothing : Batch.convert s.converter.script = []
      · exact .inr ⟨nothing, rfl, rfl⟩
      · refine .inl ?_
        by_contra missing
        refine current ⟨fun same => nothing (same.symm.trans empty), fun held => missing held.2⟩
  · rw [copyScript_of_filled empty]
    constructor
    · rintro ⟨t, ended, copied | ⟨nothing, -, reported⟩⟩ ⟨apart, -⟩
      · cases ended
        exact apart (Option.some.inj copied)
      · cases ended
        have told : statusText "Slurm script copied to clipboard" =
          statusText (warning "Nothing to copy") := reported
        exact absurd told (by decide)
    · intro current
      refine ⟨_, rfl, .inl ?_⟩
      by_contra other
      exact current ⟨fun same => other (congrArg some same), fun held => empty held.1⟩

theorem perform_copies (copies : Copies s event) :
    (perform event).run s = copyScript.run s := by
  cases copies with
  | pressed clear =>
      have found : s.reachable.find? (·.name == Text.ofString "btn-copy-slurm") =
          some .copyScript := by
        rw [Session.reachable, clear]
        decide
      rw [perform, Step.run_bind_of_ok (run_find found), Step.run_bind_of_ok (Step.run_get s),
        clear]
      rfl
  | called clear =>
      rw [perform, callCommand, Step.run_bind_of_ok (Step.run_get s), clear]
      rfl

/-! ### Copies in runs -/

/-- In a run, the output is outdated only while a refresh is to come. -/
theorem Reached.pending_of_outdated (reached : Reached s) (outdated : Outdated s) :
    Pending s .converter := by
  obtain ⟨followed, unnoted⟩ := reached.followed
  rcases (UpToDate.of_followed followed unnoted).converter with pending | ⟨current, -⟩
  · exact pending
  · exact absurd current outdated.1

/-- What is copied is the current script, or there is nothing to copy and the status says so,
    exactly where the output is not outdated. In a run it is outdated only between an edit of the
    script and the refresh that follows on it. -/
theorem perform_copiesCurrent_iff (copies : Copies s event) :
    (CopiesCurrent s ((perform event).run s) ↔ ¬ Outdated s) ∧
      (Reached s → ¬ Pending s .converter → CopiesCurrent s ((perform event).run s)) := by
  rw [perform_copies copies, copyScript_copiesCurrent_iff]
  exact ⟨Iff.rfl, fun reached settled outdated => settled (reached.pending_of_outdated outdated)⟩

/-- The start after a script was pasted. -/
def withScript : Session :=
  (plainStart.take (Action.event (.paste "pbs-input" "#PBS -N one")).step).2

theorem reached_withScript : Reached withScript := by
  rw [withScript]
  exact reached_plainStart.take _ (by decide +kernel)

/-- The same once the delays have passed. -/
def withConverted : Session := (withScript.take (Action.event .wait).step).2

theorem reached_withConverted : Reached withConverted := by
  rw [withConverted]
  exact reached_withScript.take _ (by decide +kernel)

theorem perform_copiesCurrent_iff_withConverted :
    Copies withConverted (.press "btn-copy-slurm") ∧ Reached withConverted ∧
      ¬ Pending withConverted .converter ∧
      CopiesCurrent withConverted ((perform (.press "btn-copy-slurm")).run withConverted) := by
  have found : withConverted.dialogs.isEmpty = true ∧ withConverted.timers = [] := by
    decide +kernel
  obtain ⟨closed, timers⟩ := found
  have clear : withConverted.dialogs = [] := List.isEmpty_iff.mp closed
  have settled : ¬ Pending withConverted .converter := by
    rintro ⟨t, member, -⟩
    rw [timers] at member
    cases member
  exact ⟨.pressed clear, reached_withConverted, settled,
    (perform_copiesCurrent_iff (.pressed clear)).2 reached_withConverted settled⟩

/-- Before the delays have passed, there is nothing to copy, though there is a script. -/
theorem not_copiesCurrent_withScript :
    Reached withScript ∧ Copies withScript (.press "btn-copy-slurm") ∧
      ¬ CopiesCurrent withScript ((perform (.press "btn-copy-slurm")).run withScript) := by
  have found : withScript.dialogs.isEmpty = true ∧ withScript.clipboard = none ∧
      withScript.converter.output ≠ Batch.convert withScript.converter.script := by
    decide +kernel
  obtain ⟨closed, untouched, apart⟩ := found
  have clear : withScript.dialogs = [] := List.isEmpty_iff.mp closed
  have outdated : Outdated withScript := by
    refine ⟨apart, fun held => ?_⟩
    rw [untouched] at held
    cases held.2
  refine ⟨reached_withScript, .pressed clear, ?_⟩
  rw [perform_copies (.pressed clear), copyScript_copiesCurrent_iff]
  exact fun current => current outdated

end ClusterPrep.Editor
