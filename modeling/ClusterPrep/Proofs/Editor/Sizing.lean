import ClusterPrep.Proofs.Editor.LayingOut
import ClusterPrep.Proofs.Editor.Runs
import ClusterPrep.Proofs.Editor.Suggesting
import ClusterPrep.Proofs.Hpl.Size
import ClusterPrep.Proofs.Settings.Loading

set_option autoImplicit false

/-
  When a request for a problem size is settled: a size is entered and shown, or the memory is
  refused. Otherwise it fails, over a memory that is too large or over what else is in the form.
-/
namespace ClusterPrep

namespace Settings

variable {s : Settings} {file : Option (List UInt8)} {nesting : Nesting}
  {notices : List Notice} (loaded : load file nesting = .ok (s, notices))
include loaded

theorem isShare_of_load : Hpl.IsShare s.memoryRatio := by
  have allowed : Setting.Allows .memoryRatio (.real s.memoryRatio) :=
    allows_of_load loaded .memoryRatio
  cases allowed with
  | memoryRatio finite positive most => exact ⟨finite, positive, most⟩

theorem one_le_of_load : 1 ≤ s.blockMultiple := by
  have allowed : Setting.Allows .blockMultiple (.int s.blockMultiple) :=
    allows_of_load loaded .blockMultiple
  cases allowed with
  | blockMultiple least => exact least

end Settings

namespace Editor

open Hpl

/-! ### Sizes for the text of a memory -/

/-- The text is that of a memory, which is any number from zero on. -/
structure IsMemory (entered : Text) (m : Binary64) : Prop where
  read : Numeral.readReal (Text.strip entered) = .ok m
  least : Binary64.zero.le m = true

section

variable {settings : Settings} {entered : Text} {m : Binary64}

theorem sizeFor_of_read (read : Numeral.readReal (Text.strip entered) = .ok m) :
    sizeFor settings (Text.strip entered) = (do
      let n ← Hpl.suggestSize (.real m) (.real settings.memoryRatio) (.int settings.blockMultiple)
      return (m, n)) := by
  rw [sizeFor, read]
  rfl

variable (share : IsShare settings.memoryRatio) (block : 1 ≤ settings.blockMultiple)
include share block

/-- No memory is a bad value. -/
theorem sizeFor_of_not_isMemory (none : ∀ m, ¬ IsMemory entered m) :
    ∃ e, sizeFor settings (Text.strip entered) = .error e ∧ e.kind = .badValue := by
  cases read : Numeral.readReal (Text.strip entered) with
  | error e =>
      refine ⟨e, ?_, Numeral.kind_of_readReal read⟩
      rw [sizeFor, read]
      rfl
  | ok m =>
      have outside : Binary64.zero.le m = false := by
        rw [Bool.eq_false_iff]
        exact fun least => none m ⟨read, least⟩
      obtain ⟨e, failed, bad⟩ := Hpl.suggestSize_of_bad outside share block
      refine ⟨e, ?_, bad⟩
      rw [sizeFor_of_read read, failed]
      rfl

theorem sizeFor_of_within (memory : IsMemory entered m) (below : m.lt memoryLimit = true) :
    ∃ j : Nat, sizeFor settings (Text.strip entered) =
        .ok (m, .int (j * settings.blockMultiple)) ∧
      (Binary64.ofInt (j * settings.blockMultiple)).isFinite = true := by
  obtain ⟨j, made, finite⟩ := Hpl.suggestSize_of_within memory.least below share block
  refine ⟨j, ?_, finite⟩
  rw [sizeFor_of_read memory.read, made]
  rfl

theorem sizeFor_of_beyond (memory : IsMemory entered m) (beyond : m.lt memoryLimit = false) :
    sizeFor settings (Text.strip entered) = .error .integerOfInfinity := by
  rw [sizeFor_of_read memory.read, Hpl.suggestSize_of_beyond memory.least beyond share block]
  rfl

end

/-! ### The form with a size -/

/-- What the form holds can be written and checked, whatever size is entered in it. -/
def Form.RendersSizes (form : Form) : Prop :=
  ∀ i c, (Binary64.ofInt i).isFinite = true →
    (form.set (.list .ns) (.text (Numeral.ofInt i))).config = .ok c → Presentable c

/-- That depends on its other places only. -/
theorem Form.rendersSizes_of_one {form : Form} {i : Int}
    (finite : (Binary64.ofInt i).isFinite = true)
    (renders : ∀ c, (form.set (.list .ns) (.text (Numeral.ofInt i))).config = .ok c →
      Presentable c) : form.RendersSizes := by
  intro j d finite' holds
  have short := Binary64.length_ofNat_of_isFinite finite
  have short' := Binary64.length_ofNat_of_isFinite finite'
  obtain ⟨sizes, others⟩ := (Form.config_set_whole_iff short').mp holds
  have kept {f : Field} (apart : f ≠ .multi .ns) :
      (d.set (.list [.int i]) (.multi .ns)).get f = d.get f := d.get_set_of_ne _ apart
  obtain ⟨within, shown⟩ := renders (d.set (.list [.int i]) (.multi .ns)) <| by
    refine (Form.config_set_whole_iff short).mpr ⟨?_, fun slot apart => ?_⟩
    · exact Value.list.inj (d.get_set_self (.list [.int i]) (.multi .ns))
    · rw [kept (Slot.field_ne_multi apart), others slot apart]
  have single (f : Single) : (d.set (.list [.int i]) (.multi .ns)).single f = d.single f :=
    kept (f := .single f) (by simp)
  have multi {f : Multi} (apart : f ≠ .ns) :
      (d.set (.list [.int i]) (.multi .ns)).multi f = d.multi f :=
    Value.list.inj (kept (f := .multi f) (by simpa using apart))
  refine ⟨⟨fun f other => ?_, fun f v member => ?_⟩, fun f => ?_⟩
  · rw [← single]
    exact within.single f other
  · by_cases sizing : f = .ns
    · rw [sizing, sizes] at member
      rw [List.mem_singleton.mp member]
      exact finite'
    · exact within.multi f v (by rwa [multi sizing])
  · rw [← single]
    exact shown f

/-- A form that holds a configuration within the reals is one of these. -/
theorem Form.rendersSizes_of_inReals {form : Form} {c : Config} (holds : form.config = .ok c)
    (inside : ∀ f, (c.get f).InReals) : form.RendersSizes := by
  intro i d finite held
  have sized : (form.set (.list .ns) (.text (Numeral.ofInt i))).config =
      .ok (c.set (.list [.int i]) (.multi .ns)) := by
    refine (Form.config_set_whole_iff (Binary64.length_ofNat_of_isFinite finite)).mpr
      ⟨Value.list.inj (c.get_set_self (.list [.int i]) (.multi .ns)), fun slot apart => ?_⟩
    rw [c.get_set_of_ne _ (Slot.field_ne_multi apart), Form.config_eq_ok_iff.mp holds slot]
  cases held.symm.trans sized
  refine presentable_of_inReals fun f => ?_
  by_cases sizing : f = .multi .ns
  · rw [sizing]
    refine .list fun v member => ?_
    rw [List.mem_singleton.mp member]
    exact .int finite
  · rw [c.get_set_of_ne _ sizing]
    exact inside f

/-! ### The request -/

/-- What a request for a problem size is to lead to: to a multiple of the block size in the line of
    sizes, or to the same form and a line of status that refuses the memory. -/
inductive Settles (entered : Text) (s t : Session) : Prop
  | sized (j : Nat) (form : t.builder.form = s.builder.form.set (.list .ns)
      (.text (Numeral.ofInt (j * s.settings.blockMultiple)))) : Settles entered s t
  | refused (form : t.builder.form = s.builder.form)
      (told : t.builder.status = statusText
        (warning ("Invalid memory size: " ++ Text.quoted (Text.strip entered)))) :
      Settles entered s t

section

variable {s : Session} {entered : Text} {m : Binary64}
  (share : IsShare s.settings.memoryRatio) (block : 1 ≤ s.settings.blockMultiple)
  (typed : s.builder.IsTyped) (memory : s.builder.memory = .text entered)
include share block memory

/-- A memory that is too large is not refused: the request fails. -/
theorem suggestSize_of_beyond (large : IsMemory entered m) (beyond : m.lt memoryLimit = false) :
    suggestSize.run s = .error .integerOfInfinity s := by
  have read : s.builder.memory.asText = .ok entered := by rw [memory]; rfl
  exact suggestSize_of_other read (sizeFor_of_beyond share block large beyond) (by decide)

theorem suggestSize_of_not_isMemory (none : ∀ m, ¬ IsMemory entered m) :
    ∃ t, suggestSize.run s = .ok ⟨⟩ t ∧ Settles entered s t := by
  have read : s.builder.memory.asText = .ok entered := by rw [memory]; rfl
  obtain ⟨e, failed, bad⟩ := sizeFor_of_not_isMemory share block none
  exact ⟨_, suggestSize_of_bad read failed bad, .refused rfl rfl⟩

include typed

/-- A size that was found is entered, and the request succeeds if the form can be refreshed. -/
theorem suggestSize_of_within (memory' : IsMemory entered m) (below : m.lt memoryLimit = true) :
    ((∃ t, suggestSize.run s = .ok ⟨⟩ t) ↔ s.builder.form.RendersSizes) ∧
      ∀ t, suggestSize.run s = .ok ⟨⟩ t → Settles entered s t := by
  have read : s.builder.memory.asText = .ok entered := by rw [memory]; rfl
  obtain ⟨j, sized, finite⟩ := sizeFor_of_within share block memory' below
  have shown := shown_int (Binary64.length_ofNat_of_isFinite finite)
  obtain ⟨changes, ran⟩ := run_suggestSize_of_shown read sized shown
  obtain ⟨form, -⟩ := suggestSize_of_shown read sized shown
  have refreshes := exists_refreshBuilder_iff
    (s := s.withForm (s.builder.form.set (.list .ns)
      (.text (Numeral.ofInt (j * s.settings.blockMultiple)))) changes)
    (typed.form.set_text (.list .ns) (Numeral.ofInt (j * s.settings.blockMultiple)))
  refine ⟨⟨?_, fun renders => ?_⟩, fun t ended => .sized j ?_⟩
  · rintro ⟨t, ended⟩
    rw [ran] at ended
    obtain ⟨⟨⟩, v, refreshed, -⟩ := Step.exists_of_run_bind ended
    exact Form.rendersSizes_of_one finite fun c holds =>
      (refreshes.mp ⟨v, refreshed⟩ c holds).1
  · obtain ⟨v, refreshed⟩ := refreshes.mpr fun c holds =>
      ⟨renders _ c finite holds, typed.processes⟩
    rw [ran, Step.run_bind_of_ok refreshed]
    exact ⟨_, run_setBuilderStatus _ v⟩
  · rwa [Step.after_of_ok ended] at form

end

/-- **When a request for a problem size is settled.** For all settings that can be loaded and every
    text in the line of the memory, a request ends with a multiple of the block size in the line of
    sizes or with the memory refused exactly if the memory, where it is one, is below 2^994
    gigabytes, and what else is in the form can be written and checked. -/
theorem suggestSize_settles_iff {s : Session} (typed : s.builder.IsTyped) {entered : Text}
    (memory : s.builder.memory = .text entered) {file : Option (List UInt8)}
    {nesting : Nesting} {notices : List Notice}
    (loaded : Settings.load file nesting = .ok (s.settings, notices)) :
    (∃ t, suggestSize.run s = .ok ⟨⟩ t ∧ Settles entered s t) ↔
      ∀ m, IsMemory entered m →
        m.lt memoryLimit = true ∧ s.builder.form.RendersSizes := by
  have share := Settings.isShare_of_load loaded
  have block := Settings.one_le_of_load loaded
  constructor
  · rintro ⟨t, ended, -⟩ m large
    cases below : m.lt memoryLimit with
    | false =>
        rw [suggestSize_of_beyond share block memory large below] at ended
        cases ended
    | true =>
        obtain ⟨succeeds, -⟩ := suggestSize_of_within share block typed memory large below
        exact ⟨rfl, succeeds.mp ⟨t, ended⟩⟩
  · intro usable
    by_cases some : ∃ m, IsMemory entered m
    · obtain ⟨m, memory'⟩ := some
      obtain ⟨below, renders⟩ := usable m memory'
      obtain ⟨succeeds, settles⟩ := suggestSize_of_within share block typed memory memory' below
      obtain ⟨t, ended⟩ := succeeds.mpr renders
      exact ⟨t, ended, settles t ended⟩
    · exact suggestSize_of_not_isMemory share block memory fun m memory' => some ⟨m, memory'⟩

theorem suggestSize_settles_ragged :
    (raggedOn "4").builder.IsTyped ∧ (raggedOn "4").builder.memory = .text "16" ∧
      Settings.load none = .ok ((raggedOn "4").settings, []) ∧
      ∃ t, suggestSize.run (raggedOn "4") = .ok ⟨⟩ t ∧ Settles "16" (raggedOn "4") t := by
  have typed := isTyped_raggedOn "4"
  have loaded : Settings.load none = .ok ((raggedOn "4").settings, []) := by
    dsimp only [raggedOn]
    rfl
  have usable (m : Binary64) (memory : IsMemory "16" m) :
      m.lt memoryLimit = true ∧ (raggedOn "4").builder.form.RendersSizes := by
    constructor
    · have below : (Numeral.readReal (Text.strip "16")).toOption.all (·.lt memoryLimit) = true := by
        decide +kernel
      rwa [memory.read] at below
    · rw [form_raggedOn]
      exact Form.rendersSizes_of_inReals config_raggedForm takes_ragged.inReals
  exact ⟨typed, rfl, loaded, (suggestSize_settles_iff typed rfl loaded).mpr usable⟩

/-- The start after the memory was said to be infinite. -/
def withInfinity : Session :=
  (plainStart.take (perform (.enter "input-memory-gb" (.text "inf")))).2

/-- A request is then not settled. -/
theorem not_settles_withInfinity :
    Reached withInfinity ∧ withInfinity.builder.memory = .text "inf" ∧
      ¬ ∃ t, suggestSize.run withInfinity = .ok ⟨⟩ t ∧ Settles "inf" withInfinity t := by
  have passes : ((Value.text "inf").same withInfinity.builder.memory &&
      (suggestSize.failed? withInfinity).isSome) = true := by
    decide +kernel
  rw [Bool.and_eq_true] at passes
  obtain ⟨memory, failed⟩ := passes
  obtain ⟨u, failed⟩ := Option.isSome_iff_exists.mp failed
  obtain ⟨e, ran⟩ := Step.exists_of_failed? failed
  refine ⟨?_, same_text_eq_true.mp memory, ?_⟩
  · rw [withInfinity]
    exact reached_plainStart.take (.event (.enter "input-memory-gb" (.text "inf")))
      (by decide +kernel)
  · rintro ⟨t, ended, -⟩
    cases ran.symm.trans ended

end Editor

end ClusterPrep
