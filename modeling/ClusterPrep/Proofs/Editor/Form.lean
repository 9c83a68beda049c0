import ClusterPrep.Editor.Form
import ClusterPrep.Proofs.Hpl.Fields

set_option autoImplicit false

/-
  The form and the configuration that it holds: every place gives its field the value that stands
  there.
-/
namespace ClusterPrep

namespace Editor

open Hpl

/-- All fields with codes. -/
def Coded.all : List Coded := [.outDevice, .pmap, .swap, .l1, .u, .equilibration]

theorem Coded.mem_all (f : Coded) : f ∈ Coded.all := by
  cases f <;> decide

namespace Slot

theorem mem_all (slot : Slot) : slot ∈ Slot.all := by
  cases slot with
  | outFile => decide
  | coded f => cases f <;> decide
  | amount f => cases f <;> decide
  | list f => cases f <;> decide

theorem nodup_all : Slot.all.Nodup := by decide

theorem field_ne_multi {slot : Slot} {f : Multi} (apart : slot ≠ .list f) :
    slot.field ≠ .multi f := by
  intro same
  cases slot with
  | list g => exact apart (congrArg Slot.list (Field.multi.inj same))
  | _ => cases same

end Slot

/-- A single field other than the output file is chosen or typed in. -/
theorem exists_coded_or_amount {f : Single} (other : f ≠ .outFile) :
    (∃ g : Coded, g.single = f) ∨ ∃ g : Amount, g.single = f := by
  cases f with
  | outFile => exact absurd rfl other
  | outDevice => exact Or.inl ⟨.outDevice, rfl⟩
  | pmap => exact Or.inl ⟨.pmap, rfl⟩
  | threshold => exact Or.inr ⟨.threshold, rfl⟩
  | swap => exact Or.inl ⟨.swap, rfl⟩
  | swappingThreshold => exact Or.inr ⟨.swappingThreshold, rfl⟩
  | l1 => exact Or.inl ⟨.l1, rfl⟩
  | u => exact Or.inl ⟨.u, rfl⟩
  | equilibration => exact Or.inl ⟨.equilibration, rfl⟩
  | alignment => exact Or.inr ⟨.alignment, rfl⟩

namespace Form

variable {form : Form} {c : Config}

/-- Every place of the form gives its field the value that stands there. -/
theorem value_of_config (holds : form.config = .ok c) (slot : Slot) :
    ∃ v, form.value slot = .ok v ∧ c.get slot.field = slot.field.fitted v := by
  have distinct : (Slot.all.map Slot.field).Nodup := by
    rw [Slot.all_field]
    exact Field.nodup_all
  exact (Config.get_of_foldlM_set Slot.field distinct holds).1 slot slot.mem_all

/-- The lists of the form hold numbers and nothing else. -/
theorem multi_of_config (holds : form.config = .ok c) (f : Multi) :
    ∃ ns : List Number, c.multi f = ns.map Value.ofNumber := by
  obtain ⟨v, read, held⟩ := value_of_config holds (.list f)
  rw [value] at read
  cases typed : (form.entry (.list f)).asText with
  | error e =>
      rw [typed] at read
      cases read
  | ok s =>
      simp only [typed, bind, Except.bind] at read
      cases found : numbers (Slot.list f).label s with
      | error e =>
          rw [found] at read
          cases read
      | ok ns =>
          rw [found] at read
          cases read
          exact ⟨ns, Value.list.inj held⟩

/-- A form holds a configuration if the value of each of its fields stands at its place. -/
theorem config_of_value (each : ∀ slot, form.value slot = .ok (c.get slot.field)) :
    form.config = .ok c := by
  have filled : form.config =
      .ok (Slot.all.foldl (fun d slot => d.set (c.get slot.field) slot.field) {}) :=
    Attempt.foldlM_eq_ok fun slot _ d => by
      rw [each slot]
      rfl
  have fields : (Slot.all.map Slot.field).foldl (fun d f => Config.set d (c.get f) f) {} =
      Slot.all.foldl (fun d slot => d.set (c.get slot.field) slot.field) {} := List.foldl_map
  rw [filled, ← fields, Slot.all_field, Config.foldl_set_all]

/-- A list stands at the place of a list, so that the value of a place fits its field. -/
theorem fitted_value {slot : Slot} {v : Value} (read : form.value slot = .ok v) :
    slot.field.fitted v = v := by
  cases slot with
  | list f =>
      obtain ⟨s, -, read⟩ := Attempt.exists_of_bind read
      obtain ⟨ns, -, done⟩ := Attempt.exists_of_bind read
      cases done
      rfl
  | _ => rfl

theorem config_eq_ok_iff :
    form.config = .ok c ↔ ∀ slot, form.value slot = .ok (c.get slot.field) := by
  refine ⟨fun holds slot => ?_, config_of_value⟩
  obtain ⟨v, read, held⟩ := value_of_config holds slot
  rw [read, held, fitted_value read]

/-- A place has the value of what stands there, whatever stands elsewhere. -/
theorem value_congr {other : Form} {slot : Slot} (same : form.entry slot = other.entry slot) :
    form.value slot = other.value slot := by
  cases slot <;> simp only [value, same]

theorem value_set_of_ne {slot other : Slot} (apart : other ≠ slot) (v : Value) :
    (form.set slot v).value other = form.value other :=
  value_congr (form.entry_set_of_ne slot other v apart)

end Form

end Editor

end ClusterPrep
