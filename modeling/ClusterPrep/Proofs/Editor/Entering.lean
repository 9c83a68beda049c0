import ClusterPrep.Proofs.Editor.Rendering

set_option autoImplicit false

/-
  Entering texts in the lines of the form. A text replaces whatever stood in its line, and nothing
  else changes but the edits to follow on. The text of a whole number in the line of a list gives
  the list of that number.
-/
namespace ClusterPrep.Editor

open Hpl

/-- Every line of the panel holds a text, as it does unless another value was put there. -/
structure Builder.IsTyped (p : Builder) : Prop where
  processes : ∃ line, p.processes = .text line
  memory : ∃ line, p.memory = .text line
  form : p.form.IsTyped

namespace Form

variable {form : Form}

theorem set_entry (form : Form) (slot : Slot) : form.set slot (form.entry slot) = form := by
  rw [set]
  congr
  funext other
  split
  · rename_i same
    rw [same]
  · rfl

/-- A place that is offered a text holds that text, whatever it held. -/
theorem accept_text (form : Form) (slot : Slot) (s : Text) :
    form.accept slot (.text s) = form.set slot (.text s) := by
  rw [accept]
  split
  · rename_i same
    rw [← same_text_eq_true.mp same, set_entry]
  · rfl

theorem IsTyped.set_text (typed : form.IsTyped) (slot : Slot) (s : Text) :
    (form.set slot (.text s)).IsTyped := by
  intro other line
  by_cases same : other = slot
  · rw [same, form.entry_set_self]
    exact ⟨s, rfl⟩
  · rw [form.entry_set_of_ne slot other _ same]
    exact typed other line

/-! ### A whole number in the line of a list -/

section

variable {f : Multi} {i : Int} (short : (Numeral.ofNat i.natAbs).length ≤ Numeral.maxDigits)
include short

theorem value_set_whole :
    (form.set (.list f) (.text (Numeral.ofInt i))).value (.list f) = .ok (.list [.int i]) := by
  have figures : ∀ v ∈ [Value.int i], IsFigure v := by
    intro v member
    rw [List.mem_singleton.mp member]
    exact short
  exact value_list (form.entry_set_self (.list f) _) (List.cons_ne_nil _ _) figures

/-- The form then holds a configuration if that has the number in its list, and everything else
    as it stands in the form. -/
theorem config_set_whole_iff {c : Config} :
    (form.set (.list f) (.text (Numeral.ofInt i))).config = .ok c ↔
      c.multi f = [.int i] ∧
        ∀ slot, slot ≠ .list f → form.value slot = .ok (c.get slot.field) := by
  rw [config_eq_ok_iff]
  constructor
  · intro each
    constructor
    · have here := (value_set_whole short).symm.trans (each (.list f))
      exact (Value.list.inj (Except.ok.inj here)).symm
    · intro slot apart
      rw [← each slot, value_set_of_ne apart]
  · rintro ⟨here, elsewhere⟩ slot
    by_cases same : slot = .list f
    · rw [same, value_set_whole short]
      exact congrArg (fun vs => Except.ok (Value.list vs)) here.symm
    · rw [value_set_of_ne same, elsewhere slot same]

end

end Form

/-! ### The step -/

/-- Entering a text at a place of the form does not fail. -/
theorem run_enterAt_text (s : Session) (slot : Slot) (entered : Text) :
    ∃ changes, (enterAt slot (.text entered)).run s =
      .ok ⟨⟩ (s.withForm (s.builder.form.set slot (.text entered)) changes) := by
  rw [enterAt, Step.run_bind_of_ok (Step.run_get s), ← Form.accept_text, Form.accept]
  dsimp only
  cases same : (Value.text entered).same (s.builder.form.entry slot) with
  | true => exact ⟨s.changes, rfl⟩
  | false => exact ⟨s.changes ++ [.form], rfl⟩

end ClusterPrep.Editor
