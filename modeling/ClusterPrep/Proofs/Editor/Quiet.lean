import ClusterPrep.Proofs.Editor.Unchanged

set_option autoImplicit false

/-
  Quiet steps: those that leave all files and presets as they are and no dialog open or closed, also
  where they fail. They are the steps that only change the panels, or what is typed in a dialog.
-/
namespace ClusterPrep.Editor

/-! ### What quiet steps leave as it is -/

/-- A dialog but for what was typed into it. -/
def Dialog.untyped : Dialog → Dialog
  | .importText _ => .importText []
  | .savePreset _ _ => .savePreset (.text []) {}
  | d => d

/-- The files, the presets, and the dialogs but for what was typed into them. -/
structure Held where
  files : Files.Tree
  presets : Preset.Store
  dialogs : List Dialog

/-- What a session holds. -/
def Session.held (s : Session) : Held := ⟨s.files, s.presets, s.dialogs.map .untyped⟩

/-- The step changes nothing that is held, whether it fails or not. -/
structure Quiet {α : Type} (step : Step α) : Prop where
  held : ∀ s, (step.after s).held = s.held

namespace Quiet

variable {α β : Type}

theorem preserves {step : Step α} (quiet : Quiet step) : Preserves Session.held step :=
  ⟨quiet.held⟩

theorem of_preserves {step : Step α} (preserves : Preserves Session.held step) : Quiet step :=
  ⟨preserves.same⟩

theorem pure (a : α) : Quiet (Pure.pure a : Step α) := ⟨fun _ => rfl⟩

theorem modify {f : Session → Session} (kept : ∀ s, (f s).held = s.held) :
    Quiet (modify f : Step PUnit) := ⟨kept⟩

theorem bind {x : Step α} {f : α → Step β} (first : Quiet x) (second : ∀ a, Quiet (f a)) :
    Quiet (x >>= f) := of_preserves (first.preserves.bind fun a => (second a).preserves)

/-- What is read is the session that the step is in. -/
theorem get_bind {f : Session → Step β} (each : ∀ s, ((f s).after s).held = s.held) :
    Quiet (get >>= f) := of_preserves (Preserves.get_bind each)

theorem read {f : Session → Step β} (each : ∀ s, Quiet (f s)) : Quiet (get >>= f) :=
  get_bind fun s => (each s).held s

theorem ofAttempt (x : Attempt α) : Quiet (Step.ofAttempt x) :=
  of_preserves (Preserves.ofAttempt x)

theorem ite {c : Prop} [Decidable c] {x y : Step α} (yes : Quiet x) (no : Quiet y) :
    Quiet (if c then x else y) := of_preserves (yes.preserves.ite no.preserves)

theorem forM {items : List α} {f : α → Step PUnit} (each : ∀ a, Quiet (f a)) :
    Quiet (items.forM f) := of_preserves (Preserves.forM fun a => (each a).preserves)

end Quiet

/-! ### The panels -/

/-- What is held is not in the panels. -/
theorem aside_held : Aside Session.held where
  converter _ _ _ := rfl
  builder _ _ := rfl
  changes _ _ := rfl
  clipboard _ _ := rfl

theorem quiet_setConverter (f : Converter → Converter) : Quiet (setConverter f) :=
  Quiet.modify fun _ => rfl

theorem quiet_setBuilder (f : Builder → Builder) : Quiet (setBuilder f) :=
  .of_preserves (aside_held.setBuilder f)

theorem quiet_noteChange (c : Change) : Quiet (noteChange c) :=
  .of_preserves (aside_held.noteChange c)

theorem quiet_setBuilderStatus (message : Text) : Quiet (setBuilderStatus message) :=
  .of_preserves (aside_held.setBuilderStatus message)

theorem quiet_refreshBuilder : Quiet refreshBuilder := .of_preserves aside_held.refreshBuilder

theorem quiet_refreshNearby : Quiet refreshNearby := .of_preserves aside_held.refreshNearby

theorem quiet_refresh (panel : Panel) : Quiet (refresh panel) :=
  .of_preserves (aside_held.refresh panel)

/-! ### What follows on edits and delays -/

theorem held_after_setDialog (d : Dialog) (s : Session) : ((setDialog d).after s).held =
    { s.held with dialogs := d.untyped :: s.held.dialogs.tail } := by
  change Held.mk s.files s.presets ((d :: s.dialogs.tail).map .untyped) = _
  rw [List.map_cons, List.map_tail]
  rfl

/-- Typing something else into the dialog on top is quiet. -/
theorem held_after_retype {s : Session} {d d' : Dialog} {below : List Dialog}
    (top : s.dialogs = d :: below) (same : d'.untyped = d.untyped) :
    ((setDialog d').after s).held = s.held := by
  rw [held_after_setDialog, same, Session.held, top]
  rfl

theorem quiet_follow (c : Change) : Quiet (follow c) := by
  cases c with
  | script => exact Quiet.modify fun _ => rfl
  | processes => exact Quiet.bind quiet_refreshNearby fun _ => Quiet.modify fun _ => rfl
  | form => exact Quiet.modify fun _ => rfl
  | presetName =>
      rw [follow]
      apply Quiet.get_bind
      intro s
      split
      · rename_i name hint below top
        exact Step.after_ofAttempt_bind (P := fun t => t.held = s.held) rfl
          fun _ _ => held_after_retype top rfl
      · rfl

theorem quiet_passTime : Quiet passTime := by
  unfold passTime
  apply Quiet.read
  intro s
  exact Quiet.bind (Quiet.modify fun _ => rfl) fun _ => Quiet.forM fun t => quiet_refresh t.panel

/-- What follows on a step is quiet. -/
theorem Session.held_take {α : Type} (s : Session) (step : Step α) :
    (s.take step).2.held = (step.after s).held :=
  s.view_take (fun _ => rfl) (fun c => (quiet_follow c).preserves) step

/-! ### Scripts and the form -/

theorem quiet_enterScript (script : Text) : Quiet (enterScript script) :=
  .of_preserves (aside_held.enterScript script)

theorem quiet_setScript (script : Text) : Quiet (setScript script) :=
  .of_preserves (aside_held.setScript script)

theorem quiet_loadScript : Quiet loadScript := .of_preserves aside_held.loadScript

theorem quiet_copyScript : Quiet copyScript := .of_preserves aside_held.copyScript

theorem quiet_enterAt (slot : Slot) (v : Value) : Quiet (enterAt slot v) :=
  .of_preserves (aside_held.enterAt slot v)

theorem quiet_enterProcesses (v : Value) : Quiet (enterProcesses v) :=
  .of_preserves (aside_held.enterProcesses v)

theorem quiet_fillForm (c : Hpl.Config) : Quiet (fillForm c) :=
  .of_preserves (aside_held.fillForm c)

theorem quiet_importText (content : Text) : Quiet (importText content) :=
  .of_preserves (aside_held.importText content)

theorem quiet_suggestGrid : Quiet suggestGrid := .of_preserves aside_held.suggestGrid

theorem quiet_suggestSize : Quiet suggestSize := .of_preserves aside_held.suggestSize

theorem quiet_loadPreset (name : Text) : Quiet (loadPreset name) :=
  .of_preserves (aside_held.loadPreset name)

theorem quiet_reloadSettings : Quiet reloadSettings := by
  unfold reloadSettings
  apply Quiet.read
  intro s
  exact Quiet.bind (Quiet.ofAttempt _) fun _ => Quiet.modify fun _ => rfl

end ClusterPrep.Editor
