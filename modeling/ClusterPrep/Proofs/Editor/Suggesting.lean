import ClusterPrep.Proofs.Editor.Entering
import ClusterPrep.Proofs.Editor.Unchanged

set_option autoImplicit false

/-
  Having a problem size suggested for the memory. What is entered and what the status says depend on
  the memory that stands there and on the share of it and the multiple that the settings give.
-/
namespace ClusterPrep.Editor

/-- The text of the problem size for the memory that is entered, of which some share is used, as a
    multiple of some block size; with the memory. -/
def Session.suggestion (s : Session) (share : Binary64) (multiple : Int) :
    Attempt (Text × Binary64) := do
  let memory ← Numeral.readReal (Text.strip (← s.builder.memory.asText))
  let n ← Hpl.suggestSize (.real memory) (.real share) (.int multiple)
  return (← (Value.ofNumber n).shown, memory)

/-- The words that say what a size was suggested for. -/
def sizeMessage (share : Binary64) (size : Text) (memory : Binary64) : Text :=
  "N=" ++ size ++ " uses about " ++ share.percent ++ " of " ++ memory.general 6 ++ " GB"

/-- What a request for a problem size leads to. The size is entered, also where the request fails
    after that. If there is none, the form stays as it is. Where the request does not fail, the
    status says which share is used, or that what is entered is no memory. -/
inductive Suggests (s : Session) (share : Binary64) (multiple : Int) (result : Except Failure Unit)
    (t : Session) : Prop
  | sized {size : Text} {memory : Binary64}
      (found : s.suggestion share multiple = .ok (size, memory))
      (entered : t.builder.form = s.builder.form.set (.list .ns) (.text size))
      (told : result = .ok ⟨⟩ → t.builder.status = statusText (sizeMessage share size memory)) :
      Suggests s share multiple result t
  | unsized {e : Failure} (missing : s.suggestion share multiple = .error e)
      (kept : t.builder.form = s.builder.form)
      (refused : result = .ok ⟨⟩ → ∃ entered, s.builder.memory.asText = .ok entered ∧
        t.builder.status = statusText
          (warning ("Invalid memory size: " ++ Text.quoted (Text.strip entered)))) :
      Suggests s share multiple result t

/-! ### What happens to the form and the status -/

/-- The form and the status of the builder. -/
def Session.reported (s : Session) : Form × Text := (s.builder.form, s.builder.status)

theorem preserves_reported_follow (c : Change) : Preserves Session.reported (follow c) := by
  cases c with
  | script => exact Preserves.modify fun _ => rfl
  | form => exact Preserves.modify fun _ => rfl
  | processes =>
      refine Preserves.bind (Preserves.read fun s => ?_) fun _ => Preserves.modify fun _ => rfl
      exact Preserves.bind (Preserves.ofAttempt _) fun _ => Preserves.modify fun _ => rfl
  | presetName =>
      apply Preserves.read
      intro s
      split
      · exact Preserves.bind (Preserves.ofAttempt _) fun _ => Preserves.modify fun _ => rfl
      · exact Preserves.pure _

theorem preserves_form_refreshBuilder : Preserves (·.builder.form) refreshBuilder := by
  have status (message : Text) : Preserves (·.builder.form) (setBuilderStatus message) :=
    Preserves.modify fun _ => rfl
  apply Preserves.read
  intro s
  apply Preserves.bind (Preserves.orElse _ fun e => status _)
  intro c?
  cases c? with
  | none => exact Preserves.pure _
  | some c =>
      apply Preserves.bind (Preserves.ofAttempt _)
      intro output
      refine Preserves.bind (Preserves.modify ?_) fun _ => ?_
      · exact fun _ => rfl
      apply Preserves.bind (Preserves.ofAttempt _)
      intro count
      apply Preserves.bind (Preserves.ofAttempt _)
      intro problems
      cases problems with
      | nil => exact status _
      | cons problem _ => exact status _

/-! ### The step -/

section

variable {s : Session}

/-- The suggestion in two parts: the memory with the number for it, and the text of that. -/
theorem suggestion_eq {entered : Text} (typed : s.builder.memory.asText = .ok entered) :
    s.suggestion s.settings.memoryRatio s.settings.blockMultiple =
      (sizeFor s.settings (Text.strip entered)).bind fun found =>
        (Value.ofNumber found.2).shown.bind fun size => .ok (size, found.1) := by
  rw [Session.suggestion, typed, sizeFor]
  simp only [bind, Except.bind]
  cases Numeral.readReal (Text.strip entered) with
  | error e => rfl
  | ok memory =>
      dsimp only
      cases Hpl.suggestSize (.real memory) (.real s.settings.memoryRatio)
          (.int s.settings.blockMultiple) with
      | error e => rfl
      | ok n => rfl

theorem suggestSize_of_untyped {e : Failure} (failed : s.builder.memory.asText = .error e) :
    suggestSize.run s = .error e s := by
  rw [suggestSize, Step.run_bind_of_ok (Step.run_get s), failed]
  exact Step.run_bind_of_error (Step.run_ofAttempt_error s e)

/-- A text that is no memory is refused. -/
theorem suggestSize_of_bad {entered : Text} {e : Failure}
    (typed : s.builder.memory.asText = .ok entered)
    (failed : sizeFor s.settings (Text.strip entered) = .error e) (bad : e.kind = .badValue) :
    suggestSize.run s = .ok ⟨⟩ (s.onBuilder
      (·.reporting (warning ("Invalid memory size: " ++ Text.quoted (Text.strip entered))))) := by
  rw [suggestSize, Step.run_bind_of_ok (Step.run_get s), typed,
    Step.run_bind_of_ok (Step.run_ofAttempt_ok s entered)]
  dsimp only
  rw [failed,
    Step.run_bind_of_ok (Step.run_orElse_of_bad s bad _ (run_setBuilderStatus _ s))]
  rfl

theorem suggestSize_of_other {entered : Text} {e : Failure}
    (typed : s.builder.memory.asText = .ok entered)
    (failed : sizeFor s.settings (Text.strip entered) = .error e) (other : e.kind ≠ .badValue) :
    suggestSize.run s = .error e s := by
  rw [suggestSize, Step.run_bind_of_ok (Step.run_get s), typed,
    Step.run_bind_of_ok (Step.run_ofAttempt_ok s entered)]
  dsimp only
  rw [failed]
  exact Step.run_bind_of_error (Step.run_orElse_of_other s other _)

theorem suggestSize_of_unshown {entered : Text} {memory : Binary64} {n : Number} {e : Failure}
    (typed : s.builder.memory.asText = .ok entered)
    (sized : sizeFor s.settings (Text.strip entered) = .ok (memory, n))
    (failed : (Value.ofNumber n).shown = .error e) : suggestSize.run s = .error e s := by
  rw [suggestSize, Step.run_bind_of_ok (Step.run_get s), typed,
    Step.run_bind_of_ok (Step.run_ofAttempt_ok s entered)]
  dsimp only
  rw [sized, Step.run_bind_of_ok (Step.run_orElse_ok s _ _)]
  dsimp only
  rw [failed]
  exact Step.run_bind_of_error (Step.run_ofAttempt_error s e)

/-- A size is entered before the builder is refreshed. -/
theorem run_suggestSize_of_shown {entered size : Text} {memory : Binary64} {n : Number}
    (typed : s.builder.memory.asText = .ok entered)
    (sized : sizeFor s.settings (Text.strip entered) = .ok (memory, n))
    (shown : (Value.ofNumber n).shown = .ok size) :
    ∃ changes, suggestSize.run s = (do
      refreshBuilder
      setBuilderStatus (sizeMessage s.settings.memoryRatio size memory) : Step Unit).run
        (s.withForm (s.builder.form.set (.list .ns) (.text size)) changes) := by
  obtain ⟨changes, entry⟩ := run_enterAt_text s (.list .ns) size
  refine ⟨changes, ?_⟩
  rw [suggestSize, Step.run_bind_of_ok (Step.run_get s), typed,
    Step.run_bind_of_ok (Step.run_ofAttempt_ok s entered)]
  dsimp only
  rw [sized, Step.run_bind_of_ok (Step.run_orElse_ok s _ _)]
  dsimp only
  rw [shown, Step.run_bind_of_ok (Step.run_ofAttempt_ok s size), Step.run_bind_of_ok entry]
  rfl

/-- A size is entered, also if refreshing the preview fails after that. -/
theorem suggestSize_of_shown {entered size : Text} {memory : Binary64} {n : Number}
    (typed : s.builder.memory.asText = .ok entered)
    (sized : sizeFor s.settings (Text.strip entered) = .ok (memory, n))
    (shown : (Value.ofNumber n).shown = .ok size) :
    (suggestSize.after s).builder.form = s.builder.form.set (.list .ns) (.text size) ∧
      ∀ t, suggestSize.run s = .ok ⟨⟩ t →
        t.builder.status = statusText (sizeMessage s.settings.memoryRatio size memory) := by
  obtain ⟨changes, runs⟩ := run_suggestSize_of_shown typed sized shown
  have kept := preserves_form_refreshBuilder.same
    (s.withForm (s.builder.form.set (.list .ns) (.text size)) changes)
  rw [Step.after, runs]
  cases refreshed : refreshBuilder.run
      (s.withForm (s.builder.form.set (.list .ns) (.text size)) changes) with
  | error e v =>
      rw [Step.after_of_error refreshed] at kept
      rw [Step.run_bind_of_error refreshed]
      refine ⟨kept, fun t ended => ?_⟩
      cases ended
  | ok _ v =>
      rw [Step.after_of_ok refreshed] at kept
      rw [Step.run_bind_of_ok refreshed, run_setBuilderStatus]
      refine ⟨kept, fun t ended => ?_⟩
      cases ended
      rfl

/-- A request goes by the settings. -/
theorem suggests_suggestSize (s : Session) :
    Suggests s s.settings.memoryRatio s.settings.blockMultiple
      (s.take suggestSize).1 (s.take suggestSize).2 := by
  have reported : (s.take suggestSize).2.reported = (suggestSize.after s).reported :=
    s.view_take (fun _ => rfl) preserves_reported_follow suggestSize
  have form : (s.take suggestSize).2.builder.form = (suggestSize.after s).builder.form :=
    congrArg Prod.fst reported
  have status : (s.take suggestSize).2.builder.status = (suggestSize.after s).builder.status :=
    congrArg Prod.snd reported
  have ended (done : (s.take suggestSize).1 = .ok ⟨⟩) : ∃ u, suggestSize.run s = .ok ⟨⟩ u := by
    obtain ⟨u, ran, -⟩ := Session.take_of_ok (Prod.ext done rfl)
    exact ⟨u, ran⟩
  have failing {e e' : Failure} (ran : suggestSize.run s = .error e s)
      (missing : s.suggestion s.settings.memoryRatio s.settings.blockMultiple = .error e') :
      Suggests s s.settings.memoryRatio s.settings.blockMultiple
        (s.take suggestSize).1 (s.take suggestSize).2 := by
    refine .unsized missing (by rw [form, Step.after_of_error ran]) fun done => ?_
    obtain ⟨u, ran'⟩ := ended done
    cases ran.symm.trans ran'
  cases typed : s.builder.memory.asText with
  | error e =>
      have missing : s.suggestion s.settings.memoryRatio s.settings.blockMultiple = .error e := by
        rw [Session.suggestion, typed]
        rfl
      exact failing (suggestSize_of_untyped typed) missing
  | ok entered =>
      have parts := suggestion_eq typed
      cases sized : sizeFor s.settings (Text.strip entered) with
      | error e =>
          rw [sized] at parts
          by_cases bad : e.kind = .badValue
          · have ran := suggestSize_of_bad typed sized bad
            refine .unsized parts (by rw [form, Step.after_of_ok ran]; rfl) fun _ => ?_
            rw [status, Step.after_of_ok ran]
            exact ⟨entered, typed, rfl⟩
          · exact failing (suggestSize_of_other typed sized bad) parts
      | ok found =>
          obtain ⟨memory, n⟩ := found
          rw [sized] at parts
          cases shown : (Value.ofNumber n).shown with
          | error e =>
              simp only [Except.bind, shown] at parts
              exact failing (suggestSize_of_unshown typed sized shown) parts
          | ok size =>
              simp only [Except.bind, shown] at parts
              obtain ⟨entry, told⟩ := suggestSize_of_shown typed sized shown
              refine .sized parts (form.trans entry) fun done => ?_
              obtain ⟨u, ran⟩ := ended done
              rw [status, Step.after_of_ok ran]
              exact told u ran

end

/-! ### Actions that ask for a size -/

/-- The action asks for a problem size, and no dialog is open. -/
inductive RequestsSize (s : Session) : Action → Prop
  | press (alone : s.dialogs = []) : RequestsSize s (.event (.press Widget.suggestSize.name))
  | call {name : Text} (alone : s.dialogs = [])
      (known : Command.ofName? name [] = some .suggestSize) :
      RequestsSize s (.event (.call name []))

theorem RequestsSize.run {s : Session} {action : Action} (requests : RequestsSize s action) :
    action.step.run s = suggestSize.run s := by
  cases requests with
  | press alone =>
      have found : s.reachable.find? (·.name == Widget.suggestSize.name) = some .suggestSize := by
        rw [Session.reachable, alone]
        decide
      rw [Action.step, perform, Step.run_bind_of_ok (run_find found),
        Step.run_bind_of_ok (Step.run_get s), alone]
      rfl
  | call alone known =>
      rw [Action.step, perform, callCommand, Step.run_bind_of_ok (Step.run_get s), known, alone]
      rfl

end ClusterPrep.Editor
