import ClusterPrep.Editor.Event
import ClusterPrep.Editor.Start

set_option autoImplicit false

/-
  What a step leaves as it is, also where it fails. What the panels hold is changed by many steps;
  any view of the session that shows nothing of it is preserved by all steps that change no more.
-/
namespace ClusterPrep.Editor

/-- The session that a step leaves, whether it fails or not. -/
def Step.after {α : Type} (step : Step α) (s : Session) : Session :=
  match step.run s with
  | .ok _ t => t
  | .error _ t => t

namespace Step

variable {α β : Type} {s t : Session}

theorem after_of_ok {step : Step α} {a : α} (ran : step.run s = .ok a t) : step.after s = t := by
  rw [after, ran]

theorem after_of_error {step : Step α} {e : Failure} (ran : step.run s = .error e t) :
    step.after s = t := by
  rw [after, ran]

theorem after_bind_of_ok {x : Step α} {f : α → Step β} {a : α} (ran : x.run s = .ok a t) :
    (x >>= f).after s = (f a).after t := by
  rw [after, run_bind_of_ok ran, after]

theorem after_bind_of_error {x : Step α} {f : α → Step β} {e : Failure}
    (ran : x.run s = .error e t) : (x >>= f).after s = t := by
  rw [after, run_bind_of_error ran]

theorem after_get_bind (f : Session → Step β) (s : Session) :
    (get >>= f).after s = (f s).after s := after_bind_of_ok (run_get s)

theorem after_modify_bind (g : Session → Session) (f : PUnit → Step β) (s : Session) :
    ((modify g : Step PUnit) >>= f).after s = (f ⟨⟩).after (g s) := after_bind_of_ok rfl

/-- A step that begins with a computation ends at once or goes on with its value. -/
theorem after_ofAttempt_bind {x : Attempt α} {f : α → Step β} {P : Session → Prop}
    (failed : P s) (each : ∀ a, x = .ok a → P ((f a).after s)) :
    P ((Step.ofAttempt x >>= f).after s) := by
  cases x with
  | error e => exact failed
  | ok a => exact each a rfl

end Step

/-! ### Preserving a view -/

/-- The step changes nothing that the view shows, whether it fails or not. -/
structure Preserves {α β : Type} (view : Session → β) (step : Step α) : Prop where
  same : ∀ s, view (step.after s) = view s

namespace Preserves

variable {α β γ : Type} {view : Session → γ}

theorem pure (a : α) : Preserves view (Pure.pure a : Step α) := ⟨fun _ => rfl⟩

theorem throw (e : Failure) : Preserves view (throw e : Step α) := ⟨fun _ => rfl⟩

theorem modify {f : Session → Session} (kept : ∀ s, view (f s) = view s) :
    Preserves view (modify f : Step PUnit) := ⟨kept⟩

theorem bind {x : Step α} {f : α → Step β} (first : Preserves view x)
    (second : ∀ a, Preserves view (f a)) : Preserves view (x >>= f) := by
  constructor
  intro s
  have kept := first.same s
  cases ran : x.run s with
  | error e t =>
      rw [Step.after_of_error ran] at kept
      rw [Step.after_bind_of_error ran, kept]
  | ok a t =>
      rw [Step.after_of_ok ran] at kept
      rw [Step.after_bind_of_ok ran, (second a).same t, kept]

theorem throw_bind (e : Failure) (f : α → Step β) :
    Preserves view ((MonadExcept.throw e : Step α) >>= f) := ⟨fun _ => rfl⟩

/-- What is read is the session that the step is in. -/
theorem get_bind {f : Session → Step β} (each : ∀ s, view ((f s).after s) = view s) :
    Preserves view (get >>= f) := by
  constructor
  intro s
  rw [Step.after_get_bind]
  exact each s

theorem read {f : Session → Step β} (each : ∀ s, Preserves view (f s)) :
    Preserves view (get >>= f) :=
  get_bind fun s => (each s).same s

theorem ofAttempt (x : Attempt α) : Preserves view (Step.ofAttempt x) := by
  cases x with
  | ok a => exact pure a
  | error e => exact throw e

theorem orElse (x : Attempt α) {instead : Failure → Step Unit}
    (each : ∀ e, Preserves view (instead e)) : Preserves view (Step.orElse x instead) := by
  cases x with
  | ok a => exact pure (some a)
  | error e =>
      unfold Step.orElse
      dsimp only
      split
      · exact bind (each e) fun _ => pure none
      · exact throw e

theorem ite {c : Prop} [Decidable c] {x y : Step α} (yes : Preserves view x)
    (no : Preserves view y) : Preserves view (if c then x else y) := by
  split
  · exact yes
  · exact no

theorem forM {items : List α} {f : α → Step PUnit} (each : ∀ a, Preserves view (f a)) :
    Preserves view (items.forM f) := by
  induction items with
  | nil => exact pure PUnit.unit
  | cons a items ih => exact bind (each a) fun _ => ih

/-- A view that what follows on each edit preserves is preserved by what follows on all of them. -/
theorem settle (unnoted : ∀ s : Session, view { s with changes := [] } = view s)
    (follows : ∀ c, Preserves view (follow c)) : Preserves view settle := by
  unfold Editor.settle
  apply read
  intro s
  exact bind (modify unnoted) fun _ => forM follows

end Preserves

/-- A step that is taken leaves the view as the step itself does if what follows preserves it. -/
theorem Session.view_take {α γ : Type} {view : Session → γ}
    (unnoted : ∀ s : Session, view { s with changes := [] } = view s)
    (follows : ∀ c, Preserves view (follow c)) (s : Session) (step : Step α) :
    view (s.take step).2 = view (step.after s) := by
  have settled : view ((do let a ← step; settle; return a : Step α).after s) =
      view (step.after s) := by
    cases ran : step.run s with
    | error e t => rw [Step.after_bind_of_error ran, Step.after_of_error ran]
    | ok a t =>
        rw [Step.after_bind_of_ok ran, Step.after_of_ok ran]
        exact (Preserves.bind (.settle unnoted follows) fun _ => Preserves.pure a).same t
  rw [← settled, Session.take, Step.after]
  cases (do let a ← step; settle; return a : Step α).run s with
  | ok a t => rfl
  | error e t => exact unnoted t

/-! ### Views that show no panel -/

/-- The view shows nothing that is edited: of the panels at most the delay of the converter, and
    neither the edits that are noted nor the clipboard. -/
structure Aside {γ : Type} (view : Session → γ) : Prop where
  converter : ∀ (s : Session) (p : Converter), p.delay = s.converter.delay →
    view { s with converter := p } = view s
  builder : ∀ (s : Session) (p : Builder), view { s with builder := p } = view s
  changes : ∀ (s : Session) (changes : List Change), view { s with changes } = view s
  clipboard : ∀ (s : Session) (clipboard : Option Text), view { s with clipboard } = view s

namespace Aside

variable {γ : Type} {view : Session → γ} (aside : Aside view)

include aside

theorem setConverter {f : Converter → Converter} (kept : ∀ p, (f p).delay = p.delay) :
    Preserves view (setConverter f) :=
  Preserves.modify fun s => aside.converter s (f s.converter) (kept s.converter)

theorem setBuilder (f : Builder → Builder) : Preserves view (setBuilder f) :=
  Preserves.modify fun s => aside.builder s (f s.builder)

theorem noteChange (c : Change) : Preserves view (noteChange c) :=
  Preserves.modify fun s => aside.changes s (s.changes ++ [c])

theorem setConverterStatus (message : Text) : Preserves view (setConverterStatus message) :=
  aside.setConverter fun _ => rfl

theorem setBuilderStatus (message : Text) : Preserves view (setBuilderStatus message) :=
  aside.setBuilder _

theorem reportInBuilder (e : Failure) : Preserves view (reportInBuilder e) :=
  aside.setBuilderStatus _

theorem refreshConverter : Preserves view refreshConverter := by
  unfold Editor.refreshConverter
  apply Preserves.read
  intro s
  refine Preserves.bind (aside.setConverter ?_) fun _ => ?_
  · exact fun _ => rfl
  apply Preserves.ite (aside.setConverterStatus _)
  refine Preserves.bind (aside.setConverter ?_) fun _ => ?_
  · exact fun _ => rfl
  exact Preserves.bind (Preserves.ofAttempt _) fun _ => aside.setConverterStatus _

theorem refreshBuilder : Preserves view refreshBuilder := by
  unfold Editor.refreshBuilder
  apply Preserves.read
  intro s
  apply Preserves.bind (Preserves.orElse _ aside.reportInBuilder)
  intro c?
  cases c? with
  | none => exact Preserves.pure _
  | some c =>
      apply Preserves.bind (Preserves.ofAttempt _)
      intro output
      apply Preserves.bind (aside.setBuilder _)
      intro _
      apply Preserves.bind (Preserves.ofAttempt _)
      intro count
      apply Preserves.bind (Preserves.ofAttempt _)
      intro problems
      cases problems with
      | nil => exact aside.setBuilderStatus _
      | cons problem _ => exact aside.setBuilderStatus _

theorem refreshNearby : Preserves view refreshNearby := by
  unfold Editor.refreshNearby
  apply Preserves.read
  intro s
  exact Preserves.bind (Preserves.ofAttempt _) fun _ => aside.setBuilder _

theorem refresh (panel : Panel) : Preserves view (refresh panel) := by
  cases panel with
  | converter => exact aside.refreshConverter
  | builder => exact aside.refreshBuilder

/-! ### Scripts -/

theorem enterScript (script : Text) : Preserves view (enterScript script) :=
  Preserves.bind (aside.setConverter fun _ => rfl) fun _ => aside.noteChange _

theorem setScript (script : Text) : Preserves view (setScript script) :=
  Preserves.bind (aside.enterScript script) fun _ => aside.refreshConverter

theorem loadScript : Preserves view loadScript := by
  unfold Editor.loadScript
  apply Preserves.read
  intro s
  apply Preserves.bind (Preserves.ofAttempt _)
  intro raw
  apply Preserves.ite (aside.setConverterStatus _)
  apply Preserves.bind (Preserves.ofAttempt _)
  intro path
  dsimp only
  cases Files.pathFailure? path.text with
  | some e => exact Preserves.throw_bind e _
  | none =>
      cases s.files.readBytes path with
      | ok bytes => exact aside.setScript _
      | error e => exact aside.setConverterStatus _

theorem copyScript : Preserves view copyScript := by
  unfold Editor.copyScript
  apply Preserves.read
  intro s
  apply Preserves.ite (aside.setConverterStatus _)
  apply Preserves.bind (Preserves.modify fun t => aside.clipboard t _)
  intro _
  exact aside.setConverterStatus _

/-! ### The form -/

theorem editForm (form : Form) : Preserves view (editForm form) :=
  Preserves.bind (aside.setBuilder _) fun _ => aside.noteChange _

theorem enterAt (slot : Slot) (v : Value) : Preserves view (enterAt slot v) := by
  unfold Editor.enterAt
  apply Preserves.read
  intro s
  exact Preserves.ite (aside.editForm _) (Preserves.pure _)

theorem enterProcesses (v : Value) : Preserves view (enterProcesses v) := by
  unfold Editor.enterProcesses
  apply Preserves.read
  intro s
  apply Preserves.ite _ (Preserves.pure _)
  exact Preserves.bind (aside.setBuilder _) fun _ => aside.noteChange _

theorem fillPlace (c : Hpl.Config) (slot : Slot) : Preserves view (fillPlace c slot) := by
  unfold Editor.fillPlace
  apply Preserves.read
  intro s
  apply Preserves.bind (Preserves.ofAttempt _)
  intro filled
  cases filled with
  | skipped => exact Preserves.pure _
  | unchanged => exact Preserves.pure _
  | changed form => exact Preserves.bind (aside.editForm form) fun _ => Preserves.pure _

theorem fillPlaces (c : Hpl.Config) (slots : List Slot) :
    Preserves view (fillPlaces c slots) := by
  induction slots with
  | nil => exact Preserves.pure _
  | cons slot slots ih =>
      apply Preserves.bind (aside.fillPlace c slot)
      intro skipped
      exact Preserves.bind ih fun _ => Preserves.pure _

theorem fillForm (c : Hpl.Config) : Preserves view (fillForm c) := by
  unfold Editor.fillForm
  apply Preserves.bind (aside.fillPlaces c Slot.all)
  intro skipped
  apply Preserves.bind aside.refreshBuilder
  intro _
  exact Preserves.ite (aside.setBuilderStatus _) (Preserves.pure _)

theorem importText (content : Text) : Preserves view (importText content) := by
  unfold Editor.importText
  apply Preserves.bind (Preserves.ofAttempt _)
  intro found
  cases found with
  | none => exact aside.setBuilderStatus _
  | some c => exact aside.fillForm c

theorem suggestGrid : Preserves view suggestGrid := by
  unfold Editor.suggestGrid
  apply Preserves.read
  intro s
  apply Preserves.bind (Preserves.orElse _ aside.reportInBuilder)
  intro entered
  cases entered with
  | none => exact Preserves.pure _
  | some entered =>
      apply Preserves.bind (Preserves.ofAttempt _)
      intro laidOut
      apply Preserves.bind (Preserves.ofAttempt _)
      intro p
      apply Preserves.bind (Preserves.ofAttempt _)
      intro q
      apply Preserves.bind (aside.enterAt _ _)
      intro _
      apply Preserves.bind (aside.enterAt _ _)
      intro _
      apply Preserves.bind aside.refreshNearby
      intro _
      apply Preserves.bind aside.refreshBuilder
      intro _
      exact Preserves.bind (Preserves.ofAttempt _) fun _ => aside.setBuilderStatus _

theorem suggestSize : Preserves view suggestSize := by
  unfold Editor.suggestSize
  apply Preserves.read
  intro s
  apply Preserves.bind (Preserves.ofAttempt _)
  intro raw
  apply Preserves.bind (Preserves.orElse _ fun _ => aside.setBuilderStatus _)
  intro found
  cases found with
  | none => exact Preserves.pure _
  | some found =>
      apply Preserves.bind (Preserves.ofAttempt _)
      intro size
      apply Preserves.bind (aside.enterAt _ _)
      intro _
      exact Preserves.bind aside.refreshBuilder fun _ => aside.setBuilderStatus _

theorem loadPreset (name : Text) : Preserves view (loadPreset name) := by
  unfold Editor.loadPreset
  apply Preserves.read
  intro s
  apply Preserves.bind (Preserves.ofAttempt _)
  intro loaded
  rcases loaded with ⟨_ | c, notices⟩
  · exact aside.setBuilderStatus _
  · exact Preserves.bind (aside.fillForm c) fun _ => aside.setBuilderStatus _

/-- The first refresh changes the panels only. -/
theorem firstRefresh (script : Text) : Preserves view (firstRefresh script) := by
  unfold Editor.firstRefresh
  apply Preserves.bind aside.refreshConverter
  intro _
  apply Preserves.bind aside.refreshBuilder
  intro _
  apply Preserves.bind aside.refreshNearby
  intro _
  exact Preserves.ite (aside.setScript script) (Preserves.pure _)

end Aside

end ClusterPrep.Editor
