import ClusterPrep.Proofs.Editor.Filling

set_option autoImplicit false

/-
  Importing a file into the form. A word that a file has in the place of a number is shown in the
  form, where it is read as one number, as several or not at all. So the values of the file are
  kept exactly if there is no such word.
-/
namespace ClusterPrep.Editor

open Hpl Text

/-! ### Values that agree -/

/-- The same value, or values that count as equal; so what is not a number agrees with itself. -/
def Agrees (v w : Value) : Prop := v = w ∨ v.same w = true

/-- Configurations that agree in every value. -/
structure AgreesWith (c d : Config) : Prop where
  single : ∀ f, Agrees (c.single f) (d.single f)
  multi : ∀ f, List.Forall₂ Agrees (c.multi f) (d.multi f)

theorem not_agrees_text (w : Text) (n : Number) : ¬ Agrees (.text w) (.ofNumber n) := by
  rintro (same | same)
  · cases n <;> cases same
  · have same := same_text_eq_true.mp same
    cases n <;> cases same

/-- A form that agrees with a configuration holds no list in which there is a word. -/
theorem AgreesWith.ne_text {c d : Config} {form : Form} (agree : AgreesWith c d)
    (holds : form.config = .ok d) (f : Multi) : ∀ v ∈ c.multi f, ∀ w, v ≠ .text w := by
  rintro v member w rfl
  obtain ⟨ns, numbers⟩ := Form.multi_of_config holds f
  have agree := agree.multi f
  rw [numbers] at agree
  obtain ⟨u, inside, same⟩ := Attempt.exists_of_mem_right
    (R := fun x y => Agrees y x) agree.flip member
  obtain ⟨n, -, rfl⟩ := List.mem_map.mp inside
  exact not_agrees_text w n same

/-! ### The form after a file was imported -/

section

variable {s u : Session} {c : Config} (able : Offered c) (done : (fillForm c).run s = .ok ⟨⟩ u)
include able done

/-- A step that fills the form leaves in it what was offered. -/
theorem form_of_fillForm : u.builder.form = s.builder.form.acceptAll (offers c) Slot.all := by
  obtain ⟨changes, ran⟩ := run_fillForm able s
  rw [ran] at done
  rcases refreshBuilder_cases done with ⟨e, -, -, rfl⟩ | ⟨d, output, message, -, -, rfl⟩
  · rfl
  · rfl

theorem entry_of_fillForm (slot : Slot) :
    u.builder.form.entry slot = (s.builder.form.entry slot).replacedBy (offers c slot) := by
  rw [form_of_fillForm able done, Form.entry_acceptAll _ _ Slot.nodup_all, if_pos slot.mem_all]

theorem entry_of_offered_text {slot : Slot} {t : Text} (offer : offers c slot = .text t) :
    u.builder.form.entry slot = .text t := by
  rw [entry_of_fillForm able done, offer, replacedBy_text_eq]

section

variable {d : Config} (holds : u.builder.form.config = .ok d)
include holds

theorem agrees_outFile (name : c.outFile = .null ∨ ∃ w, IsWord w ∧ c.outFile = .text w) :
    Agrees (c.single .outFile) (d.single .outFile) := by
  obtain ⟨v, read, held⟩ := Form.value_of_config holds .outFile
  rw [Form.value_outFile (entry_of_offered_text able done rfl) name] at read
  cases read
  exact Or.inl held.symm

/-- A code is replaced unless an equal one was chosen. -/
theorem agrees_coded (f : Coded) : Agrees (c.single f.single) (d.single f.single) := by
  obtain ⟨v, read, held⟩ := Form.value_of_config holds (.coded f)
  have held : d.single f.single = v := held
  have kept : u.builder.form.entry (.coded f) = v := by
    rw [Form.value] at read
    split at read
    · cases read
    · exact Except.ok.inj read
  rw [entry_of_fillForm able done, Value.replacedBy] at kept
  rw [held, ← kept]
  split
  · rename_i same
    exact Or.inr same
  · exact Or.inl rfl

theorem agrees_amount (f : Amount)
    (figure : c.single f.single = .null ∨ IsFigure (c.single f.single)) :
    Agrees (c.single f.single) (d.single f.single) := by
  obtain ⟨v, read, held⟩ := Form.value_of_config holds (.amount f)
  have entered : u.builder.form.entry (.amount f) = .text (wordOf (c.single f.single)) :=
    entry_of_offered_text able done rfl
  rcases figure with missing | figure
  · rw [missing] at entered
    rw [Form.value, entered] at read
    cases read
  · rw [Form.value_amount entered figure] at read
    cases read
    exact Or.inl held.symm

theorem agrees_list (f : Multi) (figures : ∀ v ∈ c.multi f, IsFigure v) :
    List.Forall₂ Agrees (c.multi f) (d.multi f) := by
  obtain ⟨v, read, held⟩ := Form.value_of_config holds (.list f)
  have entered : u.builder.form.entry (.list f) = .text (unwords ((c.multi f).map wordOf)) :=
    entry_of_offered_text able done rfl
  by_cases empty : c.multi f = []
  · rw [empty] at entered
    rw [Form.value, entered] at read
    cases read
  · rw [Form.value_list entered empty figures] at read
    cases read
    rw [Value.list.inj held]
    exact List.forall₂_same.mpr fun v _ => Or.inl rfl

end

end

/-- **When importing a file keeps its values.** Once the text of a file was imported whose codes are
    codes of the form, a form that holds a configuration holds that of the file exactly if no list
    of the file has a word in it. -/
theorem importText_agreesWith_iff {s u : Session} {text : Text} {c d : Config}
    (found : Hpl.read text = .ok (some c))
    (coded : ∀ f : Coded, Form.isCode f.codes (c.single f.single) = .ok true)
    (done : (importText text).run s = .ok ⟨⟩ u) (holds : u.builder.form.config = .ok d) :
    AgreesWith c d ↔ ∀ f, ∀ v ∈ c.multi f, ∀ w, v ≠ .text w := by
  have lines := ofLines_of_read found
  have legible := legible_of_ofLines lines
  have able : Offered c := { legible.worded with coded }
  have filled : (fillForm c).run s = .ok ⟨⟩ u := by
    rwa [importText, found, Step.run_bind_of_ok (Step.run_ofAttempt_ok s _)] at done
  refine ⟨fun agree f => agree.ne_text holds f, fun plain => ⟨fun f => ?_, fun f => ?_⟩⟩
  · by_cases file : f = .outFile
    · subst file
      refine agrees_outFile able filled holds ?_
      rcases single_of_ofLines lines .outFile with ⟨-, missing⟩ | ⟨-, named⟩ | ⟨other, -⟩
      · exact Or.inl missing
      · exact Or.inr named
      · exact absurd rfl other
    · rcases exists_coded_or_amount file with ⟨g, rfl⟩ | ⟨g, rfl⟩
      · exact agrees_coded able filled holds g
      · exact agrees_amount able filled holds g (legible.single g.single file)
  · refine agrees_list able filled holds f fun v member => ?_
    have listed := legible.multi f v member
    cases v with
    | text w => exact absurd rfl (plain f (.text w) member w)
    | int i => exact listed
    | real x => trivial
    | _ => exact absurd listed id

/-- A complete file with block sizes of its own. -/
def listing (blocks : Text) : Text :=
  "h1\nh2\nHPL.out\n6\n1\n29\n1\n" ++ blocks ++
    "\n0\n1\n2\n2\n16.0\n1\n2\n1\n4\n1\n2\n1\n1\n1\n1\n1\n1\n2\n64\n0\n0\n1\n8"

/-- Whether a configuration has a code of the form in every place for one. -/
def isCoded (c : Config) : Bool :=
  [Coded.outDevice, .pmap, .swap, .l1, .u, .equilibration].all fun f =>
    decide ((Form.isCode f.codes (c.single f.single)).toOption = some true)

theorem isCode_of_isCoded {c : Config} (passes : isCoded c = true) (f : Coded) :
    Form.isCode f.codes (c.single f.single) = .ok true :=
  Attempt.ok_of_toOption
    (of_decide_eq_true (List.all_eq_true.mp passes f (by cases f <;> decide)))

/-- The configuration of a text and that of the form after the text was imported at the start. -/
def imported? (text : Text) : Option (Config × Config) :=
  match Hpl.read text, (importText text).run plainStart with
  | .ok (some c), .ok _ u => u.builder.form.config.toOption.map (c, ·)
  | _, _ => none

theorem of_imported? {text : Text} {c d : Config} (found : imported? text = some (c, d)) :
    ∃ u, Hpl.read text = .ok (some c) ∧ (importText text).run plainStart = .ok ⟨⟩ u ∧
      u.builder.form.config = .ok d := by
  rw [imported?] at found
  split at found
  · rename_i c' a u read ran
    obtain ⟨d', holds, same⟩ := Option.map_eq_some_iff.mp found
    cases same
    exact ⟨u, read, ran, Attempt.ok_of_toOption holds⟩
  · cases found

theorem importText_agreesWith_listing :
    ∃ u c d, Hpl.read (listing "2.56e2") = .ok (some c) ∧
      (∀ f : Coded, Form.isCode f.codes (c.single f.single) = .ok true) ∧
      (importText (listing "2.56e2")).run plainStart = .ok ⟨⟩ u ∧
      u.builder.form.config = .ok d ∧ AgreesWith c d := by
  have passes : ((imported? (listing "2.56e2")).any fun (c, _) =>
      isCoded c && multis.all fun f => (c.multi f).all (·.number?.isSome)) = true := by
    decide +kernel
  obtain ⟨⟨c, d⟩, found, passes⟩ := (Option.any_eq_true _ _).mp passes
  obtain ⟨u, read, ran, holds⟩ := of_imported? found
  obtain ⟨coded, numbers⟩ := (Bool.and_eq_true _ _).mp passes
  have coded := isCode_of_isCoded coded
  refine ⟨u, c, d, read, coded, ran, holds,
    (importText_agreesWith_iff read coded ran holds).mpr fun f v member w same => ?_⟩
  have number := List.all_eq_true.mp (List.all_eq_true.mp numbers f (mem_multis f)) v member
  rw [same] at number
  cases number

/-- A comma divides a word of the file into two numbers of the form. -/
theorem not_importText_agreesWith :
    Reached plainStart ∧ ∃ u c d, Hpl.read (listing "128,192") = .ok (some c) ∧
      (∀ f : Coded, Form.isCode f.codes (c.single f.single) = .ok true) ∧
      (importText (listing "128,192")).run plainStart = .ok ⟨⟩ u ∧
      u.builder.form.config = .ok d ∧ ¬ AgreesWith c d := by
  have passes : ((imported? (listing "128,192")).any fun (c, d) =>
      isCoded c && decide (c.nbs.length ≠ d.nbs.length)) = true := by
    decide +kernel
  obtain ⟨⟨c, d⟩, found, passes⟩ := (Option.any_eq_true _ _).mp passes
  obtain ⟨u, read, ran, holds⟩ := of_imported? found
  obtain ⟨coded, apart⟩ := (Bool.and_eq_true _ _).mp passes
  refine ⟨reached_plainStart, u, c, d, read, isCode_of_isCoded coded, ran, holds,
    fun agree => ?_⟩
  exact of_decide_eq_true apart (agree.multi .nbs).length_eq

end ClusterPrep.Editor
