import ClusterPrep.Proofs.Editor.Refresh
import ClusterPrep.Proofs.Editor.Runs
import ClusterPrep.Proofs.Files.Tree

set_option autoImplicit false

/-
  Writing HPL.dat from the form. The output is refreshed just before it is written, but over a form
  that does not hold a configuration the refresh leaves the last output in place, and that one is
  written and reported. So the file is that of the form exactly when the form holds a configuration.
-/
namespace ClusterPrep.Editor

/-! ### Forms that do not hold a configuration -/

/-- What is said of a failure names a place of the form. -/
def Names (e : Failure) (slot : Slot) : Prop :=
  ∃ rest, e.message = Text.ofString slot.label ++ rest

namespace Form

variable {form : Form} {slot : Slot} {e : Failure}

theorem asText_of_error {v : Value} (failed : v.asText = .error e) : e.kind ≠ .badValue := by
  cases v <;> cases failed <;> simp [Failure.kind]

theorem numbers_of_error {label : String} {s : Text} (failed : numbers label s = .error e) :
    ∃ rest, e.message = Text.ofString label ++ rest := by
  rw [numbers] at failed
  split at failed
  · cases failed
  · cases failed
    rename_i cause _
    exact ⟨Text.ofString ": " ++ cause.message, by rw [Failure.message, List.append_assoc]⟩

/-- Numbers that are typed at a place fail over what is typed, or what is done with them does. -/
theorem typed_of_bad {label : String} {v : Value} {use : List Number → Attempt Value}
    (failed : (do use (← numbers label (← v.asText))) = .error e) (bad : e.kind = .badValue) :
    (∃ rest, e.message = Text.ofString label ++ rest) ∨ ∃ ns, use ns = .error e := by
  cases typed : v.asText with
  | error cause =>
      rw [typed] at failed
      cases failed
      exact absurd bad (asText_of_error typed)
  | ok s =>
      simp only [typed, bind, Except.bind] at failed
      cases read : numbers label s with
      | error cause =>
          rw [read] at failed
          cases failed
          exact Or.inl (numbers_of_error read)
      | ok ns =>
          rw [read] at failed
          exact Or.inr ⟨ns, failed⟩

/-- A bad value is reported with the label of its place. -/
theorem value_of_bad (failed : form.value slot = .error e) (bad : e.kind = .badValue) :
    Names e slot := by
  cases slot with
  | outFile =>
      rw [value] at failed
      cases typed : (form.entry .outFile).asText with
      | ok s =>
          rw [typed] at failed
          cases failed
      | error cause =>
          rw [typed] at failed
          cases failed
          exact absurd bad (asText_of_error typed)
  | coded f =>
      rw [value] at failed
      split at failed
      · cases failed
        exact ⟨Text.ofString ": select a value", rfl⟩
      · cases failed
  | amount f =>
      rw [value] at failed
      rcases typed_of_bad failed bad with blamed | ⟨ns, several⟩
      · exact blamed
      · split at several
        · cases several
        · cases several
          exact ⟨Text.ofString ": expected a single number", rfl⟩
  | list f =>
      rw [value] at failed
      rcases typed_of_bad failed bad with blamed | ⟨ns, several⟩
      · exact blamed
      · cases several

/-- A form that does not hold a configuration has a place that is to blame. -/
theorem config_of_bad (failed : form.config = .error e) (bad : e.kind = .badValue) :
    ∃ slot, Names e slot := by
  obtain ⟨slot, -, c, stopped⟩ := Attempt.foldlM_eq_error failed
  have blamed : form.value slot = .error e := by
    cases found : form.value slot with
    | ok v =>
        rw [found] at stopped
        cases stopped
    | error cause =>
        rw [found] at stopped
        cases stopped
        rfl
  exact ⟨slot, value_of_bad blamed bad⟩

end Form

/-! ### Lines of status -/

/-- The message after a file was written. -/
def wroteMessage (path : Files.Path) : Text := "Wrote " ++ path.text

/-- The message over a file that could not be written. -/
def unwrittenMessage (path : Files.Path) (e : FileError) : Text :=
  warning ("Could not write " ++ path.text ++ ": " ++ e.message)

/-- No warning reads as the line of status after a file was written. -/
theorem statusText_warning_ne_wrote (message : Text) (path : Files.Path) :
    statusText (warning message) ≠ statusText (wroteMessage path) := by
  have word : statusText "Wrote " = " Wrote " := by decide
  refine statusText_warning_ne message ?_
  rw [wroteMessage, statusText_append, word]
  simp [Text.ofString, Text.ofChars]

/-- No label begins as the words do that report a file that could not be written. -/
theorem visible_label (slot : Slot) :
    ∃ c rest, Display.visible (Text.ofString slot.label) = c :: rest ∧ c ≠ 'C' := by
  cases slot with
  | outFile => exact ⟨_, _, rfl, by decide⟩
  | coded f => cases f <;> exact ⟨_, _, rfl, by decide⟩
  | amount f => cases f <;> exact ⟨_, _, rfl, by decide⟩
  | list f => cases f <;> exact ⟨_, _, rfl, by decide⟩

theorem statusText_names_ne {e : Failure} {slot : Slot} (names : Names e slot)
    (path : Files.Path) (cause : FileError) :
    statusText (warning e.message) ≠ statusText (unwrittenMessage path cause) := by
  obtain ⟨rest, message⟩ := names
  obtain ⟨c, tail, label, apart⟩ := visible_label slot
  have mark : statusText "! " = " ! " := by decide
  have words : Display.visible "Could not write " = "Could not write " := by decide
  intro same
  rw [unwrittenMessage, warning, warning, statusText_append, statusText_append, mark, message]
    at same
  have tails := congrArg List.head? (List.append_cancel_left same)
  rw [Display.visible_append, Display.visible_append, Display.visible_append,
    Display.visible_append, words, label] at tails
  exact apart (Option.some.inj tails)

/-! ### Writing after a refresh -/

/-- What is written: the output and a line feed. -/
def Session.content (s : Session) : Text := s.builder.output ++ "\n"

/-- The bytes that are written: none if the content has halves that no bytes stand for. -/
def Session.contentBytes (s : Session) : List UInt8 :=
  if (Text.strayHalves? (fun _ => false) s.content).isSome then [] else Text.encode s.content

section

variable {s t : Session} {path : Files.Path} (refreshed : refreshBuilder.run s = .ok ⟨⟩ t)
include refreshed

theorem writeOutput_of_badPath {e : Failure} (bad : Files.pathFailure? path.text = some e) :
    (writeOutput path).run s = .error e t := by
  rw [writeOutput, Step.run_bind_of_ok refreshed, bad]
  rfl

variable (good : Files.pathFailure? path.text = none)
include good

theorem writeOutput_of_unwritten {e : FileError}
    (failed : t.files.writeBytes path t.contentBytes = .error e) :
    (writeOutput path).run s = .ok ⟨⟩ (t.onBuilder (·.reporting (unwrittenMessage path e))) := by
  rw [writeOutput, Step.run_bind_of_ok refreshed, good]
  dsimp only
  rw [Step.run_bind_of_ok (Step.run_get t)]
  unfold Session.contentBytes Session.content at failed
  rw [failed]
  rfl

theorem writeOutput_of_stray {files : Files.Tree} {halves : Text.Halves}
    (done : t.files.writeBytes path t.contentBytes = .ok files)
    (stray : Text.strayHalves? (fun _ => false) t.content = some halves) :
    (writeOutput path).run s = .error (.halves halves) { t with files } := by
  rw [writeOutput, Step.run_bind_of_ok refreshed, good]
  dsimp only
  rw [Step.run_bind_of_ok (Step.run_get t)]
  unfold Session.contentBytes Session.content at done
  unfold Session.content at stray
  rw [done, stray]
  rfl

theorem writeOutput_of_written {files : Files.Tree}
    (done : t.files.writeBytes path t.contentBytes = .ok files)
    (clean : Text.strayHalves? (fun _ => false) t.content = none) :
    (writeOutput path).run s =
      .ok ⟨⟩ (Session.onBuilder { t with files } (·.reporting (wroteMessage path))) := by
  rw [writeOutput, Step.run_bind_of_ok refreshed, good]
  dsimp only
  rw [Step.run_bind_of_ok (Step.run_get t)]
  unfold Session.contentBytes Session.content at done
  unfold Session.content at clean
  rw [done, clean]
  rfl

end

/-! ### When the file is that of the form -/

/-- The session that a step left, whether it failed or not. -/
def stateOf : EStateM.Result Failure Session Unit → Session
  | .ok _ t => t
  | .error _ t => t

/-- What writing the form at a path ought to do: a file that is reported as written holds the
    configuration of the form, and a form that holds none has its bad place reported and changes no
    file. -/
structure WritesForm (s : Session) (path : Files.Path)
    (result : EStateM.Result Failure Session Unit) : Prop where
  holds : ∀ t, result = .ok ⟨⟩ t → t.builder.status = statusText (wroteMessage path) →
    ∃ c text, t.builder.form.config = .ok c ∧ Hpl.write c = .ok text ∧
      t.files.readBytes path = .ok (Text.encode (text ++ "\n"))
  refuses : ∀ e, s.builder.form.config = .error e → e.kind = .badValue →
    (stateOf result).files = s.files ∧
      (stateOf result).builder.status = statusText (warning e.message)

/-- The form holds no configuration, and yet a file can be written at the path: with the last
    output, or empty over another file if the last output has halves that no bytes stand for. -/
def Lags (s : Session) (path : Files.Path) : Prop :=
  (∃ e, s.builder.form.config = .error e ∧ e.kind = .badValue) ∧
    Files.pathFailure? path.text = none ∧
    ¬ ((Text.strayHalves? (fun _ => false) s.content).isSome ∧
      s.files.writeBytes path [] = .ok s.files)

/-- A form that holds a configuration is written as it ought to be. -/
theorem writesForm_of_config {s : Session} {path : Files.Path} {c : Hpl.Config}
    (present : s.builder.form.config = .ok c) : WritesForm s path ((writeOutput path).run s) := by
  refine ⟨?_, fun e failed => by rw [present] at failed; cases failed⟩
  intro t ended status
  have stops {e : Failure} {u : Session} (failed : refreshBuilder.run s = .error e u) : False := by
    rw [writeOutput, Step.run_bind_of_error failed] at ended
    cases ended
  cases written : Hpl.write c with
  | error e => exact (stops (refreshBuilder_of_unwritten present written)).elim
  | ok output =>
      rcases refreshBuilder_of_written present written with ⟨e, failed⟩ | ⟨message, refreshed⟩
      · exact (stops failed).elim
      · generalize reached : (s.onBuilder (·.showing output)).onBuilder (·.reporting message) = u
          at refreshed
        have content : u.content = output ++ "\n" := by
          subst reached
          rfl
        have form : u.builder.form = s.builder.form := by
          subst reached
          rfl
        cases good : Files.pathFailure? path.text with
        | some e =>
            rw [writeOutput_of_badPath refreshed good] at ended
            cases ended
        | none =>
            cases done : u.files.writeBytes path u.contentBytes with
            | error e =>
                rw [writeOutput_of_unwritten refreshed good done] at ended
                cases ended
                exact absurd status (statusText_warning_ne_wrote _ path)
            | ok files =>
                cases clean : Text.strayHalves? (fun _ => false) u.content with
                | some halves =>
                    rw [writeOutput_of_stray refreshed good done clean] at ended
                    cases ended
                | none =>
                    rw [writeOutput_of_written refreshed good done clean] at ended
                    cases ended
                    refine ⟨c, output, ?_, written, ?_⟩
                    · exact (congrArg Form.config form).trans present
                    · have bytes : u.contentBytes = Text.encode (output ++ "\n") := by
                        rw [Session.contentBytes, clean, ← content]
                        rfl
                      rw [← bytes]
                      exact Files.Tree.readBytes_writeBytes done

section

variable {s t : Session} {path : Files.Path} {e : Failure}
  (failed : s.builder.form.config = .error e) (bad : e.kind = .badValue)
include failed bad

/-- A step that fails reports nothing as written. -/
theorem writesForm_error_iff (cause : Failure) :
    WritesForm s path (.error cause t) ↔
      t.files = s.files ∧ t.builder.status = statusText (warning e.message) := by
  constructor
  · intro promise
    exact promise.refuses e failed bad
  · intro kept
    constructor
    · intro u ended
      cases ended
    · intro other failed' _
      rw [failed] at failed'
      cases failed'
      exact kept

theorem not_writesForm_of_status (apart : statusText (warning e.message) ≠ t.builder.status) :
    ¬ WritesForm s path (.ok ⟨⟩ t) :=
  fun promise => apart (promise.refuses e failed bad).2.symm

/-- Over a form that holds no configuration, all depends on whether a file can be written. -/
theorem writesForm_of_bad : WritesForm s path ((writeOutput path).run s) ↔ ¬ Lags s path := by
  have refreshed := refreshBuilder_of_bad failed bad
  generalize reached : s.onBuilder (·.reporting (warning e.message)) = u at refreshed
  have content : u.content = s.content := by
    subst reached
    rfl
  have files : u.files = s.files := by
    subst reached
    rfl
  have reported : u.builder.status = statusText (warning e.message) := by
    subst reached
    rfl
  cases good : Files.pathFailure? path.text with
  | some cause =>
      rw [writeOutput_of_badPath refreshed good, writesForm_error_iff failed bad]
      refine ⟨fun _ lags => ?_, fun _ => ⟨files, reported⟩⟩
      rw [lags.2.1] at good
      cases good
  | none =>
      have lags_iff : Lags s path ↔ ¬ ((Text.strayHalves? (fun _ => false) u.content).isSome ∧
          s.files.writeBytes path [] = .ok s.files) := by
        rw [content]
        exact ⟨fun lags => lags.2.2, fun apart => ⟨⟨e, failed, bad⟩, good, apart⟩⟩
      rw [lags_iff, Classical.not_not]
      cases done : u.files.writeBytes path u.contentBytes with
      | error cause =>
          obtain ⟨slot, names⟩ := Form.config_of_bad failed bad
          rw [writeOutput_of_unwritten refreshed good done]
          constructor
          · intro promise
            exact (not_writesForm_of_status failed bad (statusText_names_ne names path cause)
              promise).elim
          · rintro ⟨stray, same⟩
            rw [Session.contentBytes, if_pos stray, files, same] at done
            cases done
      | ok written =>
          cases clean : Text.strayHalves? (fun _ => false) u.content with
          | none =>
              rw [writeOutput_of_written refreshed good done clean]
              constructor
              · intro promise
                exact (not_writesForm_of_status failed bad (statusText_warning_ne_wrote _ path)
                  promise).elim
              · rintro ⟨stray, -⟩
                cases stray
          | some halves =>
              -- The file was emptied before the failure, unless it was empty already.
              have empty : u.contentBytes = [] := by
                rw [Session.contentBytes, clean]
                rfl
              rw [writeOutput_of_stray refreshed good done clean,
                writesForm_error_iff failed bad]
              rw [empty, files] at done
              rw [done]
              constructor
              · rintro ⟨same, -⟩
                exact ⟨rfl, congrArg Except.ok same⟩
              · rintro ⟨-, same⟩
                exact ⟨Except.ok.inj same, reported⟩

end

/-- The file is that of the form, and a form without a configuration is refused, exactly where the
    form does not lag behind what can be written. -/
theorem writeOutput_writesForm_iff (s : Session) (path : Files.Path) :
    WritesForm s path ((writeOutput path).run s) ↔ ¬ Lags s path := by
  cases held : s.builder.form.config with
  | ok c =>
      refine ⟨fun _ lags => ?_, fun _ => writesForm_of_config held⟩
      obtain ⟨e, failed, -⟩ := lags.1
      rw [held] at failed
      cases failed
  | error e =>
      by_cases bad : e.kind = .badValue
      · exact writesForm_of_bad held bad
      · rw [writeOutput, Step.run_bind_of_error (refreshBuilder_of_other held bad)]
        constructor
        · rintro - ⟨⟨other, failed, bad'⟩, -⟩
          rw [held] at failed
          cases failed
          exact bad bad'
        · intro _
          constructor
          · intro t ended
            cases ended
          · intro other failed bad'
            rw [held] at failed
            cases failed
            exact absurd bad' bad

/-! ### The events that write the file -/

/-- The path that the user has entered, where nothing is yet. -/
structure Targets (s : Session) (path : Files.Path) : Prop where
  entered : ∃ raw, s.builder.path.asText = .ok raw ∧ Text.strip raw ≠ [] ∧
    (Files.Path.ofText (Text.strip raw)).expanded s.homes = .ok path
  free : Files.pathFailure? path.text = none → s.files.exists? path = .ok false

/-- The events that write a file at a path: the button and the command where nothing is yet, and
    the confirmation where something is. -/
inductive Writes (s : Session) (path : Files.Path) : Event → Prop
  | pressed (clear : s.dialogs = []) (targets : Targets s path) :
      Writes s path (.press "btn-write-hpl")
  | called (clear : s.dialogs = []) (targets : Targets s path) :
      Writes s path (.call "write_file" [])
  | confirmed (rest : List Dialog) (asked : s.dialogs = .confirm (.overwrite path) :: rest) :
      Writes s path (.press "confirm-yes")

/-- The path is one to write at if all that is asked of it is found by evaluation. -/
theorem targets_of_evaluated {s : Session} {raw : Text} {path : Files.Path}
    (typed : s.builder.path.asText.toOption = some raw) (filled : Text.strip raw ≠ [])
    (expanded : ((Files.Path.ofText (Text.strip raw)).expanded s.homes).toOption = some path)
    (free : (s.files.exists? path).toOption = some false) : Targets s path := by
  constructor
  · exact ⟨raw, Attempt.ok_of_toOption typed, filled, Attempt.ok_of_toOption expanded⟩
  · intro _
    exact Attempt.ok_of_toOption free

/-- Where nothing is yet, the file is written at once. -/
theorem startWriting_run {s : Session} {path : Files.Path} (targets : Targets s path) :
    startWriting.run s = (writeOutput path).run s := by
  obtain ⟨raw, typed, nonempty, expanded⟩ := targets.entered
  have filled : (Text.strip raw).isEmpty = false := by simpa using nonempty
  rw [startWriting, Step.run_bind_of_ok (Step.run_get s), typed,
    Step.run_bind_of_ok (Step.run_ofAttempt_ok s raw)]
  dsimp only
  rw [filled, if_neg Bool.false_ne_true, expanded,
    Step.run_bind_of_ok (Step.run_ofAttempt_ok s path)]
  cases good : Files.pathFailure? path.text with
  | some e => rfl
  | none =>
      rw [targets.free good]
      rfl

/-- Every event that writes a file does so from the same form and the same files. -/
theorem perform_run {s : Session} {path : Files.Path} {event : Event}
    (writes : Writes s path event) : ∃ u : Session, u.builder = s.builder ∧ u.files = s.files ∧
      (perform event).run s = (writeOutput path).run u := by
  cases writes with
  | pressed clear targets =>
      have found : s.reachable.find? (·.name == Text.ofString "btn-write-hpl") =
          some .writeFile := by
        rw [Session.reachable, clear]
        decide
      refine ⟨s, rfl, rfl, ?_⟩
      rw [perform, Step.run_bind_of_ok (run_find found), Step.run_bind_of_ok (Step.run_get s),
        clear]
      exact startWriting_run targets
  | called clear targets =>
      refine ⟨s, rfl, rfl, ?_⟩
      rw [perform, callCommand, Step.run_bind_of_ok (Step.run_get s), clear]
      exact startWriting_run targets
  | confirmed rest asked =>
      have found : s.reachable.find? (·.name == Text.ofString "confirm-yes") =
          some .confirm := by
        rw [Session.reachable, asked]
        rfl
      have closed : closeDialog.run s = .ok ⟨⟩ { s with dialogs := rest } := by
        rw [closeDialog, Step.run_modify, asked]
        rfl
      refine ⟨{ s with dialogs := rest }, rfl, rfl, ?_⟩
      rw [perform, Step.run_bind_of_ok (run_find found), Step.run_bind_of_ok (Step.run_get s),
        asked]
      exact Step.run_bind_of_ok closed

/-- What is written depends on the form, the last output and the files only. -/
theorem writesForm_congr {s u : Session} (builder : u.builder = s.builder)
    (files : u.files = s.files) (path : Files.Path)
    (result : EStateM.Result Failure Session Unit) :
    (WritesForm u path result ↔ WritesForm s path result) ∧ (Lags u path ↔ Lags s path) := by
  refine ⟨⟨fun promise => ⟨promise.holds, ?_⟩, fun promise => ⟨promise.holds, ?_⟩⟩, ?_⟩
  · rw [← builder, ← files]
    exact promise.refuses
  · rw [builder, files]
    exact promise.refuses
  · rw [Lags, Lags, Session.content, Session.content, builder, files]

/-- For every event that writes the file: what is written is the form, and a form that holds no
    configuration is refused, exactly where the form does not lag. -/
theorem perform_writesForm_iff {s : Session} {path : Files.Path} {event : Event}
    (writes : Writes s path event) :
    WritesForm s path ((perform event).run s) ↔ ¬ Lags s path := by
  obtain ⟨u, builder, files, same⟩ := perform_run writes
  obtain ⟨promise, lags⟩ := writesForm_congr builder files path ((writeOutput path).run u)
  rw [same, ← promise, ← lags]
  exact writeOutput_writesForm_iff u path

theorem perform_writesForm_iff_plainStart :
    Writes plainStart ⟨0, ["HPL.dat"]⟩ (.press "btn-write-hpl") ∧
      WritesForm plainStart ⟨0, ["HPL.dat"]⟩
        ((perform (.press "btn-write-hpl")).run plainStart) := by
  have clear : plainStart.dialogs = [] := List.isEmpty_iff.mp (by decide +kernel)
  have targets : Targets plainStart ⟨0, ["HPL.dat"]⟩ := by
    have typed : plainStart.builder.path.asText.toOption = some "HPL.dat" := by decide +kernel
    apply targets_of_evaluated typed
    all_goals decide +kernel
  have holds : plainStart.builder.form.config.toOption.isSome = true := by decide +kernel
  have writes := Writes.pressed clear targets
  refine ⟨writes, (perform_writesForm_iff writes).mpr ?_⟩
  rintro ⟨⟨e, failed, -⟩, -⟩
  rw [failed] at holds
  cases holds

/-- After letters were typed in for the problem sizes, the file is written with the sizes from
    before, and is reported as written. -/
theorem not_writesForm_withLetters :
    Reached withLetters ∧ Writes withLetters ⟨0, ["HPL.dat"]⟩ (.press "btn-write-hpl") ∧
      ¬ WritesForm withLetters ⟨0, ["HPL.dat"]⟩
        ((perform (.press "btn-write-hpl")).run withLetters) := by
  have clear : withLetters.dialogs = [] := List.isEmpty_iff.mp (by decide +kernel)
  have targets : Targets withLetters ⟨0, ["HPL.dat"]⟩ := by
    have typed : withLetters.builder.path.asText.toOption = some "HPL.dat" := by decide +kernel
    apply targets_of_evaluated typed
    all_goals decide +kernel
  refine ⟨reached_withLetters, Writes.pressed clear targets, fun promise => ?_⟩
  have reported : (stateOf ((perform (.press "btn-write-hpl")).run withLetters)).builder.status =
      statusText "Wrote HPL.dat" := by decide +kernel
  have refused : (match withLetters.builder.form.config with
      | .ok _ => none
      | .error e => some e) = some (.field "Ns" (.notNumber "abc")) := by decide +kernel
  cases held : withLetters.builder.form.config with
  | ok c =>
      rw [held] at refused
      cases refused
  | error e =>
      rw [held] at refused
      cases refused
      have status := (promise.refuses _ held rfl).2
      rw [reported] at status
      revert status
      decide

end ClusterPrep.Editor
