import ClusterPrep.Preset.Name
import ClusterPrep.Proofs.Text.Words
import Mathlib.Data.List.Basic

set_option autoImplicit false

/-
  Names of presets and the files that hold them. The file of a name is called by the name and an
  ending, so that different names have different files and a file tells its name.
-/
namespace ClusterPrep.Preset

section

variable {s n : Text}

/-- A text that stands for a name stands for itself without the blanks at its ends. -/
theorem eq_strip_of_checkName (named : checkName s = .ok n) : n = Text.strip s := by
  rw [checkName] at named
  split at named
  · cases named
  split at named
  · cases named
  split at named
  · exact (Except.ok.inj named).symm
  · cases named

theorem ne_nil_of_checkName (named : checkName s = .ok n) : n ≠ [] := by
  rw [eq_strip_of_checkName named]
  intro empty
  rw [checkName, empty] at named
  cases named

/-- A name stands for itself. -/
theorem checkName_of_checkName (named : checkName s = .ok n) : checkName n = .ok n := by
  have stripped : Text.strip n = Text.strip s := by
    rw [eq_strip_of_checkName named]
    exact Text.trimWhile_trimWhile Text.isBlank s
  rw [checkName, stripped]
  exact named

/-- A text that stands for no name is a bad value. -/
theorem kind_of_checkName {e : Failure} (refused : checkName s = .error e) :
    e.kind = .badValue := by
  rw [checkName] at refused
  split at refused
  · cases refused
    rfl
  split at refused
  · cases refused
    rfl
  split at refused
  · cases refused
  · cases refused
    rfl

end

/-- Different names have different files. -/
theorem fileOf_injective : Function.Injective fileOf := fun _ _ => List.append_cancel_right

/-- A file tells the name of its preset. -/
theorem nameOf?_fileOf {n : Text} (nonempty : n ≠ []) : nameOf? (fileOf n) = some n := by
  have ends : ending.isSuffixOf (fileOf n) = true :=
    List.isSuffixOf_iff_suffix.mpr (List.suffix_append n ending)
  have stem : (fileOf n).take ((fileOf n).length - ending.length) = n := by
    rw [fileOf, List.length_append, Nat.add_sub_cancel, List.take_left]
  rw [nameOf?, if_pos ends, stem]
  simp [nonempty]

/-- A file that tells a name, other than the ending alone, is that of the name. -/
theorem eq_fileOf_of_nameOf? {file n : Text} (named : nameOf? file = some n) (other : n ≠ ending) :
    file = fileOf n := by
  rw [nameOf?] at named
  split at named
  · rename_i ends
    obtain ⟨stem, rfl⟩ := List.isSuffixOf_iff_suffix.mp ends
    rw [List.length_append, Nat.add_sub_cancel, List.take_left] at named
    have named := Option.some.inj named
    split at named
    · rename_i empty
      rw [List.isEmpty_iff.mp empty] at named
      exact absurd named.symm other
    · rw [← named, fileOf]
  · cases named

/-- The ending alone is no name that a preset can have. -/
theorem ne_ending_of_checkName {s n : Text} (named : checkName s = .ok n) : n ≠ ending := by
  intro same
  rw [checkName] at named
  split at named
  · cases named
  split at named
  · cases named
  split at named
  · rename_i good
    rw [Except.ok.inj named, same] at good
    revert good
    decide
  · cases named

end ClusterPrep.Preset
