import ClusterPrep.Proofs.Editor.OddValues
import ClusterPrep.Proofs.Editor.Ready

set_option autoImplicit false

/-
  The line of status after a preset was loaded. Filling the form names there what it passed over,
  and the refresh says there what is wrong. The announcement of the preset then takes the place of
  that.
-/
namespace ClusterPrep.Editor

open Hpl

/-! ### What a line of status tells -/

/-- The words that announce a preset. -/
def announcement (name : Text) : Text := "Preset '" ++ name ++ "' loaded"

/-- The line names the places that are passed over for a configuration, and does not announce it. -/
structure NamesForeign (c : Config) (name status : Text) : Prop where
  unannounced : status ≠ statusText (announcement name)
  named : ∀ slot ∈ foreignPlaces c, (slot.label : Text) <:+: status

/-- The line tells which places were passed over for a configuration, if there are any, and that
    something is wrong with the configuration, where that is so for a number of processes. -/
structure Reports (c : Config) (available : Value) (name status : Text) : Prop where
  foreign : foreignPlaces c ≠ [] → NamesForeign c name status
  wrong : ∀ problems, Hpl.problems c available = .ok problems → problems ≠ [] →
    ∃ message, status = statusText (warning message)

theorem statusText_warning_ne_announcement (message name : Text) :
    statusText (warning message) ≠ statusText (announcement name) := by
  have word : statusText "Preset '" = " Preset '" := by decide
  refine statusText_warning_ne message ?_
  rw [announcement, List.append_assoc, statusText_append, word]
  simp [Text.ofString, Text.ofChars]

theorem visible_label_eq (slot : Slot) : Display.visible slot.label = slot.label := by
  have each : ∀ slot ∈ Slot.all, Display.visible slot.label = slot.label := by decide +kernel
  exact each slot slot.mem_all

/-- Where places were passed over, filling the form has said so. -/
theorem Fills.namesForeign {c : Config} {s t : Session} (fills : Fills c s t)
    (foreign : foreignPlaces c ≠ []) (name : Text) : NamesForeign c name t.builder.status := by
  rw [fills.named foreign]
  refine ⟨statusText_warning_ne_announcement _ _, fun slot member => ?_⟩
  have listed : (slot.label : Text) <:+:
      Text.ofString (", ".intercalate ((foreignPlaces c).map Slot.label)) := by
    rw [Text.ofString_intercalate]
    exact Text.infix_intercalate (List.mem_map_of_mem (List.mem_map_of_mem member))
  have shown := listed.filter fun a => !Display.isTerminalControl a
  rw [warning, ← List.append_assoc, statusText_append]
  refine List.IsInfix.trans ?_ (List.suffix_append _ _).isInfix
  rw [← visible_label_eq]
  exact shown

/-! ### Loading -/

section

variable {s : Session} {name : Text} {c : Config} {notices : List Notice}
  (stored : s.presets.load name s.nesting = .ok (some c, notices))
include stored

theorem run_loadPreset_eq : (loadPreset name).run s = (do
      fillForm c
      setBuilderStatus (announcement name) : Step Unit).run s := by
  rw [loadPreset, Step.run_bind_of_ok (Step.run_get s), stored,
    Step.run_bind_of_ok (Step.run_ofAttempt_ok s _)]
  rfl

/-- **When the line of status tells how a preset was loaded.** A preset is loaded to the end exactly
    if the form can be filled from it. Filling it then named the places that it passed over, but the
    announcement took the place of that: at the end the line tells what there is to tell exactly if
    no place was passed over and nothing is wrong with the configuration. -/
theorem loadPreset_reports_iff :
    ((∃ t, (loadPreset name).run s = .ok ⟨⟩ t) ↔ ∃ u, (fillForm c).run s = .ok ⟨⟩ u) ∧
      ∀ t, (loadPreset name).run s = .ok ⟨⟩ t →
        (∃ u, (fillForm c).run s = .ok ⟨⟩ u ∧ Fills c s u ∧
          (foreignPlaces c ≠ [] → NamesForeign c name u.builder.status) ∧
          t = u.onBuilder (·.reporting (announcement name))) ∧
        ∀ available, Reports c available name t.builder.status ↔
          foreignPlaces c = [] ∧
            ∀ problems, Hpl.problems c available = .ok problems → problems = [] := by
  rw [run_loadPreset_eq stored]
  have filled {t : Session}
      (done : (do
        fillForm c
        setBuilderStatus (announcement name) : Step Unit).run s = .ok ⟨⟩ t) :
      ∃ u, (fillForm c).run s = .ok ⟨⟩ u ∧ t = u.onBuilder (·.reporting (announcement name)) := by
    obtain ⟨⟨⟩, u, ran, told⟩ := Step.exists_of_run_bind done
    rw [run_setBuilderStatus] at told
    cases told
    exact ⟨u, ran, rfl⟩
  refine ⟨⟨?_, ?_⟩, fun t done => ?_⟩
  · rintro ⟨t, done⟩
    obtain ⟨u, ran, -⟩ := filled done
    exact ⟨u, ran⟩
  · rintro ⟨u, ran⟩
    rw [Step.run_bind_of_ok ran]
    exact ⟨_, run_setBuilderStatus _ u⟩
  · obtain ⟨u, ran, ended⟩ := filled done
    have fills := fills_of_run_fillForm ran
    refine ⟨⟨u, ran, fills, (fills.namesForeign · name), ended⟩, fun available => ?_⟩
    have status : t.builder.status = statusText (announcement name) := by rw [ended]; rfl
    rw [status]
    constructor
    · intro reports
      constructor
      · by_contra foreign
        exact (reports.foreign foreign).unannounced rfl
      · intro problems checked
        by_contra some
        obtain ⟨message, same⟩ := reports.wrong problems checked some
        exact statusText_warning_ne_announcement message name same.symm
    · rintro ⟨native, sound⟩
      exact ⟨fun foreign => absurd native foreign,
        fun problems checked some => absurd (sound problems checked) some⟩

end

theorem exists_load_of_any {store : Preset.Store} {name : Text} {nesting : Nesting}
    {p : Config → Bool}
    (found : ((store.load name nesting).toOption.any fun loaded => loaded.1.any p) = true) :
    ∃ c notices, store.load name nesting = .ok (some c, notices) ∧ p c = true := by
  obtain ⟨⟨c?, notices⟩, loaded, found⟩ := (Option.any_eq_true _ _).mp found
  obtain ⟨c, rfl, holds⟩ := (Option.any_eq_true _ _).mp found
  exact ⟨c, notices, Attempt.ok_of_toOption loaded, holds⟩

/-- A preset that is sound, and one with a code that there is none for and a size of zero. -/
def soundAndOdd : Preset.Store :=
  [("sound.json", Text.encode "\x7b\"ns\": [5]\x7d"),
    ("odd.json", Text.encode "\x7b\"pmap\": 7, \"ns\": [0]\x7d")]

/-- The start after these presets were stored. -/
def withSoundAndOdd : Session :=
  (plainStart.take (Action.surround
    ⟨plainStart.settingsFile, plainStart.files, plainStart.homes, soundAndOdd,
      plainStart.nesting⟩).step).2

theorem loadPreset_reports_sound :
    ∃ c notices t,
      withSoundAndOdd.presets.load "sound" withSoundAndOdd.nesting = .ok (some c, notices) ∧
      (loadPreset "sound").run withSoundAndOdd = .ok ⟨⟩ t ∧
      Reports c .null "sound" t.builder.status := by
  have passes :
      ((withSoundAndOdd.presets.load "sound" withSoundAndOdd.nesting).toOption.any fun found =>
        found.1.any fun c => (foreignPlaces c).isEmpty &&
          (Hpl.problems c .null).toOption.any (·.isEmpty)) = true := by
    decide +kernel
  have ends : ((loadPreset "sound").ended? withSoundAndOdd).isSome = true := by decide +kernel
  obtain ⟨c, notices, stored, sound⟩ := exists_load_of_any passes
  obtain ⟨t, ended⟩ := Option.isSome_iff_exists.mp ends
  have ran := Step.run_of_ended? ended
  rw [Bool.and_eq_true, List.isEmpty_iff] at sound
  obtain ⟨native, sound⟩ := sound
  refine ⟨c, notices, t, stored, ran, (((loadPreset_reports_iff stored).2 t ran).2 .null).mpr
    ⟨native, fun problems checked => ?_⟩⟩
  rw [checked] at sound
  exact List.isEmpty_iff.mp sound

/-- The odd one is announced, too, and nothing else is told. -/
theorem not_reports_odd :
    Reached withSoundAndOdd ∧ ∃ c notices t,
      withSoundAndOdd.presets.load "odd" withSoundAndOdd.nesting = .ok (some c, notices) ∧
      (loadPreset "odd").run withSoundAndOdd = .ok ⟨⟩ t ∧
      foreignPlaces c ≠ [] ∧ (∃ problems, Hpl.problems c .null = .ok problems ∧ problems ≠ []) ∧
      ¬ NamesForeign c "odd" t.builder.status ∧
      ∀ message, t.builder.status ≠ statusText (warning message) := by
  have reached : Reached withSoundAndOdd := by
    rw [withSoundAndOdd]
    exact reached_plainStart.take _ (by decide +kernel)
  have passes :
      ((withSoundAndOdd.presets.load "odd" withSoundAndOdd.nesting).toOption.any fun found =>
        found.1.any fun c => !(foreignPlaces c).isEmpty &&
          (Hpl.problems c .null).toOption.any (!·.isEmpty)) = true := by
    decide +kernel
  have ends : (((loadPreset "odd").ended? withSoundAndOdd).any fun t =>
      t.builder.status == statusText (announcement "odd")) = true := by
    decide +kernel
  obtain ⟨c, notices, loaded, odd⟩ := exists_load_of_any passes
  obtain ⟨t, ended, status⟩ := (Option.any_eq_true _ _).mp ends
  rw [beq_iff_eq] at status
  rw [Bool.and_eq_true, Bool.not_eq_true', List.isEmpty_eq_false_iff] at odd
  obtain ⟨foreign, wrong⟩ := odd
  obtain ⟨problems, checked, some⟩ := (Option.any_eq_true _ _).mp wrong
  rw [Bool.not_eq_true', List.isEmpty_eq_false_iff] at some
  refine ⟨reached, c, notices, t, loaded, Step.run_of_ended? ended, foreign,
    ⟨problems, Attempt.ok_of_toOption checked, some⟩, fun names => names.unannounced status, ?_⟩
  intro message same
  exact statusText_warning_ne_announcement message "odd" (same.symm.trans status)

end ClusterPrep.Editor
