import ClusterPrep.Proofs.Editor.PresetTable
import ClusterPrep.Proofs.Editor.Rendering
import ClusterPrep.Proofs.Editor.StepRules

set_option autoImplicit false

/-
  Filling the form from a configuration whose values may be of any kind, as those of a file are. A
  line shows whatever its value is. A value that counts as equal to a code is taken for it; any
  other leaves the code of its place as it was, and the place is named. Only lists and tables cannot
  be compared with codes: filling the form stops over them.
-/
namespace ClusterPrep

namespace Number

theorem eq_int_of_eq {a b : Number} {i : Int} (code : a.eq (.int i) = true)
    (same : a.eq b = true) : b.eq (.int i) = true := by
  have one : (Binary64.one : Int) ≠ 0 := Int.natCast_ne_zero.mpr (Nat.ne_of_gt Binary64.one_pos)
  cases a with
  | int j =>
      have code : j = i := of_decide_eq_true code
      subst code
      cases b with
      | int k =>
          have same : j = k := of_decide_eq_true same
          exact decide_eq_true same.symm
      | real y => exact same
  | real x =>
      obtain ⟨finite, code⟩ := Bool.and_eq_true_iff.mp code
      have code := of_decide_eq_true code
      cases b with
      | int k =>
          have same := of_decide_eq_true (Bool.and_eq_true_iff.mp same).2
          have scaled : k * (Binary64.one : Int) = i * Binary64.one := same.symm.trans code
          exact decide_eq_true (Int.eq_of_mul_eq_mul_right one scaled)
      | real y =>
          cases x with
          | nan => cases finite
          | inf neg => cases finite
          | finite neg m p normal =>
              cases y with
              | nan => cases same
              | inf neg' => cases same
              | finite neg' m' p' normal' =>
                  have same := of_decide_eq_true same
                  exact Bool.and_eq_true_iff.mpr ⟨rfl, decide_eq_true (same.symm.trans code)⟩

end Number

namespace Value

/-- A number is compared with what a value counts as. -/
theorem same_of_number? {v : Value} {a : Number} (number : v.number? = some a) (w : Value) :
    v.same w = match w.number? with
      | some b => a.eq b
      | none => false := by
  cases v <;> cases number <;> cases w <;> simp [same, number?]

theorem number?_of_same_int {v : Value} {i : Int} (code : v.same (.int i) = true) :
    ∃ a, v.number? = some a ∧ a.eq (.int i) = true := by
  cases v with
  | bool b => exact ⟨_, rfl, by rwa [same_of_number? rfl] at code⟩
  | int j => exact ⟨_, rfl, by rwa [same_of_number? rfl] at code⟩
  | real x => exact ⟨_, rfl, by rwa [same_of_number? rfl] at code⟩
  | _ => simp [same, number?] at code

/-- What is equal to a code and to another value makes that value equal to the code. -/
theorem same_int_of_same {v w : Value} {i : Int} (code : v.same (.int i) = true)
    (equal : v.same w = true) : w.same (.int i) = true := by
  obtain ⟨a, number, code⟩ := number?_of_same_int code
  rw [same_of_number? number] at equal
  split at equal
  · rename_i b other
    rw [same_of_number? other]
    exact Number.eq_int_of_eq code equal
  · cases equal

end Value

namespace Editor

open Hpl

/-! ### What a place is offered -/

/-- A value that can be looked up among codes. -/
def CanBeLookedUp : Value → Prop
  | .list _ | .table _ => False
  | _ => True

theorem isCode_eq {v : Value} (able : CanBeLookedUp v) (codes : List Int) :
    Form.isCode codes v = .ok (codes.any fun i => v.same (.int i)) := by
  cases v <;> first | rfl | exact absurd able id

theorem canBeLookedUp_of_isCode {codes : List Int} {v : Value} {found : Bool}
    (looked : Form.isCode codes v = .ok found) : CanBeLookedUp v := by
  cases v <;> first | exact trivial | cases looked

/-- The value for a place of the form is none of the codes to choose from there. -/
def isForeign (c : Config) : Slot → Bool
  | .coded f => !f.codes.any fun i => (c.single f.single).same (.int i)
  | _ => false

/-- The places for whose values there is no code. -/
def foreignPlaces (c : Config) : List Slot := Slot.all.filter (isForeign c)

theorem exists_valueText {v : Value} (short : v.IsShort) : ∃ s, Form.valueText v = .ok s := by
  cases v with
  | null => exact ⟨_, rfl⟩
  | _ => exact short.exists_shown

section

variable {c : Config}

theorem exists_filling (short : ∀ f, (c.get f).IsShort)
    (able : ∀ f : Coded, CanBeLookedUp (c.single f.single)) (slot : Slot) :
    ∃ offer, Form.filling c slot = .ok offer := by
  cases slot with
  | outFile =>
      obtain ⟨s, shown⟩ := exists_valueText (short (.single .outFile))
      have shown : Form.valueText c.outFile = .ok s := shown
      exact ⟨_, by rw [Form.filling, shown]; rfl⟩
  | coded f => exact ⟨_, by rw [Form.filling, isCode_eq (able f)]; rfl⟩
  | amount f =>
      obtain ⟨s, shown⟩ := exists_valueText (short (.single f.single))
      have shown : Form.valueText (c.single f.single) = .ok s := shown
      exact ⟨_, by rw [Form.filling, shown]; rfl⟩
  | list f =>
      obtain ⟨s, shown⟩ := exists_shownAll fun v => isShort_of_mem_multi short (f := f)
      exact ⟨_, by rw [Form.filling, shown]; rfl⟩

/-- A place for a code is offered the value if that is one of its codes, and nothing otherwise. -/
theorem filling_coded {f : Coded} {offer : Option Value}
    (filling : Form.filling c (.coded f) = .ok offer) :
    offer = if isForeign c (.coded f) then none else some (c.single f.single) := by
  obtain ⟨found, looked, filling⟩ := Attempt.exists_of_bind filling
  rw [isCode_eq (canBeLookedUp_of_isCode looked)] at looked
  cases looked
  cases filling
  rw [isForeign]
  cases f.codes.any _ <;> rfl

/-- Every other place is offered a text. -/
theorem filling_of_ne_coded {slot : Slot} (other : ∀ f, slot ≠ .coded f) {offer : Option Value}
    (filling : Form.filling c slot = .ok offer) : ∃ s, offer = some (.text s) := by
  cases slot with
  | coded f => exact absurd rfl (other f)
  | _ =>
      obtain ⟨s, -, done⟩ := Attempt.exists_of_bind filling
      cases done
      exact ⟨s, rfl⟩

theorem isNone_of_filling {slot : Slot} {offer : Option Value}
    (filling : Form.filling c slot = .ok offer) : offer.isNone = isForeign c slot := by
  cases slot with
  | coded f =>
      rw [filling_coded filling]
      cases isForeign c (.coded f) <;> rfl
  | _ =>
      obtain ⟨s, rfl⟩ := filling_of_ne_coded (by simp) filling
      rfl

/-- Places that were filled could be filled. -/
theorem exists_filling_of_run {slots : List Slot} {s t : Session} {labels : List String}
    (done : (fillPlaces c slots).run s = .ok labels t) :
    ∀ slot ∈ slots, ∃ offer, Form.filling c slot = .ok offer := by
  induction slots generalizing s t labels with
  | nil => simp
  | cons slot slots ih =>
      obtain ⟨passed, u, first, done⟩ := Step.exists_of_run_bind done
      obtain ⟨others, w, rest, -⟩ := Step.exists_of_run_bind done
      refine List.forall_mem_cons.mpr ⟨?_, ih rest⟩
      cases filling : Form.filling c slot with
      | ok offer => exact ⟨offer, rfl⟩
      | error e =>
          have failed : s.builder.form.fillSlot c slot = .error e := by
            rw [Form.fillSlot, filling]
            rfl
          rw [fillPlace, Step.run_bind_of_ok (Step.run_get s), failed,
            Step.run_bind_of_error (Step.run_ofAttempt_error s e)] at first
          cases first

theorem exists_offers_of_run {s t : Session} (done : (fillForm c).run s = .ok ⟨⟩ t) :
    ∃ offers : Slot → Option Value, ∀ slot, Form.filling c slot = .ok (offers slot) := by
  obtain ⟨labels, u, filled, -⟩ := Step.exists_of_run_bind done
  choose offers filling using fun slot : Slot => exists_filling_of_run filled slot slot.mem_all
  exact ⟨offers, filling⟩

end

/-! ### What filling the form leaves -/

/-- The form was filled from a configuration as far as it can be: the lines show its values, and a
    place for a code holds a code equal to its value. A place for whose value there is no code is as
    it was, and it is named in the line of status. -/
structure Fills (c : Config) (s t : Session) : Prop where
  outFile : ∃ shown, Form.valueText c.outFile = .ok shown ∧
    t.builder.form.entry .outFile = .text shown
  amount : ∀ f : Amount, ∃ shown, Form.valueText (c.single f.single) = .ok shown ∧
    t.builder.form.entry (.amount f) = .text shown
  list : ∀ f : Multi, ∃ shown, Value.shownAll (c.multi f) = .ok shown ∧
    t.builder.form.entry (.list f) = .text shown
  chosen : ∀ f : Coded, Slot.coded f ∉ foreignPlaces c → ∃ i ∈ f.codes,
    (c.single f.single).same (.int i) = true ∧
      (t.builder.form.entry (.coded f)).same (.int i) = true
  kept : ∀ f : Coded, Slot.coded f ∈ foreignPlaces c →
    (∀ i ∈ f.codes, (c.single f.single).same (.int i) = false) ∧
      t.builder.form.entry (.coded f) = s.builder.form.entry (.coded f)
  named : foreignPlaces c ≠ [] → t.builder.status = statusText (warning
    ("Unsupported codes kept at previous value: " ++
      ", ".intercalate ((foreignPlaces c).map Slot.label)))

theorem mem_foreignPlaces {c : Config} {slot : Slot} :
    slot ∈ foreignPlaces c ↔ isForeign c slot = true := by
  rw [foreignPlaces, List.mem_filter, and_iff_right slot.mem_all]

section

variable (form : Form) (offers : Slot → Option Value) (slot : Slot)

theorem entry_acceptAny_all : (form.acceptAny offers Slot.all).entry slot =
    Form.standing (form.entry slot) (offers slot) := by
  rw [Form.entry_acceptAny offers form Slot.nodup_all, if_pos slot.mem_all]

theorem entry_acceptAny_text {offers : Slot → Option Value} {slot : Slot} {s : Text}
    (offer : offers slot = some (.text s)) :
    (form.acceptAny offers Slot.all).entry slot = .text s := by
  rw [entry_acceptAny_all, offer, Form.standing, replacedBy_text_eq]

end

section

variable {c : Config} {offers : Slot → Option Value}
  (filling : ∀ slot, Form.filling c slot = .ok (offers slot))
include filling

theorem labels_of_filling :
    (Slot.all.filter fun slot => (offers slot).isNone).map Slot.label =
      (foreignPlaces c).map Slot.label := by
  rw [foreignPlaces, List.filter_congr fun slot _ => isNone_of_filling (filling slot)]

theorem isTyped_of_filling (form : Form) : (form.acceptAny offers Slot.all).IsTyped := by
  intro slot other
  obtain ⟨s, offer⟩ := filling_of_ne_coded other (filling slot)
  exact ⟨s, entry_acceptAny_text form offer⟩

/-- A run that fills the form ends with the form filled and the places named that were passed
    over. -/
theorem exists_of_run_fillForm {s t : Session} (done : (fillForm c).run s = .ok ⟨⟩ t) :
    t.builder.form = s.builder.form.acceptAny offers Slot.all ∧
      ∃ u : Session, t = u.naming ((foreignPlaces c).map Slot.label) := by
  obtain ⟨changes, ran⟩ := run_fillForm_eq filling s
  rw [done, labels_of_filling filling] at ran
  split at ran
  · rename_i u refreshed
    cases ran
    refine ⟨?_, u, rfl⟩
    have kept : u.builder.form = s.builder.form.acceptAny offers Slot.all := by
      rcases refreshBuilder_cases refreshed with ⟨e, -, -, rfl⟩ | ⟨d, output, message, -, -, rfl⟩
      · rfl
      · rfl
    rw [Session.naming]
    split
    · exact kept
    · exact kept
  · cases ran

variable (form : Form)

/-- A line that is offered a text shows it. -/
theorem shown_of_filling {slot : Slot} {x : Attempt Text}
    (offer : Form.filling c slot = do return some (.text (← x))) :
    ∃ shown, x = .ok shown ∧ (form.acceptAny offers Slot.all).entry slot = .text shown := by
  obtain ⟨shown, text, made⟩ := Attempt.exists_of_bind (offer.symm.trans (filling slot))
  exact ⟨shown, text, entry_acceptAny_text form (Except.ok.inj made).symm⟩

theorem chosen_of_filling {f : Coded} (native : Slot.coded f ∉ foreignPlaces c) :
    ∃ i ∈ f.codes, (c.single f.single).same (.int i) = true ∧
      ((form.acceptAny offers Slot.all).entry (.coded f)).same (.int i) = true := by
  rw [mem_foreignPlaces] at native
  have offer := filling_coded (filling (.coded f))
  rw [if_neg native] at offer
  rw [isForeign, Bool.not_eq_true', Bool.not_eq_false, List.any_eq_true] at native
  obtain ⟨i, code, equal⟩ := native
  refine ⟨i, code, equal, ?_⟩
  rw [entry_acceptAny_all, offer, Form.standing, Value.replacedBy]
  split
  · rename_i same
    exact Value.same_int_of_same equal same
  · exact equal

theorem kept_of_filling {f : Coded} (foreign : Slot.coded f ∈ foreignPlaces c) :
    (∀ i ∈ f.codes, (c.single f.single).same (.int i) = false) ∧
      (form.acceptAny offers Slot.all).entry (.coded f) = form.entry (.coded f) := by
  rw [mem_foreignPlaces] at foreign
  have offer := filling_coded (filling (.coded f))
  rw [if_pos foreign] at offer
  constructor
  · rw [isForeign, Bool.not_eq_true', List.any_eq_false] at foreign
    exact fun i code => Bool.eq_false_iff.mpr (foreign i code)
  · rw [entry_acceptAny_all, offer, Form.standing]

end

/-- **Filling the form is complete where it succeeds.** -/
theorem fills_of_run_fillForm {c : Config} {s t : Session}
    (done : (fillForm c).run s = .ok ⟨⟩ t) : Fills c s t := by
  obtain ⟨offers, filling⟩ := exists_offers_of_run done
  obtain ⟨form, u, ended⟩ := exists_of_run_fillForm filling done
  have line {slot : Slot} {x : Attempt Text}
      (offer : Form.filling c slot = do return some (.text (← x))) :
      ∃ shown, x = .ok shown ∧ t.builder.form.entry slot = .text shown := by
    rw [form]
    exact shown_of_filling filling _ offer
  refine ⟨line rfl, fun f => line rfl, fun f => line rfl, fun f native => ?_, fun f foreign => ?_,
    fun foreign => ?_⟩
  · rw [form]
    exact chosen_of_filling filling _ native
  · rw [form]
    exact kept_of_filling filling _ foreign
  · rw [ended, Session.naming, if_neg (by simpa using foreign)]
    rfl

/-- **When the form is filled.** From a configuration of any JSON object, the form is filled without
    a failure and as far as it can be exactly if no value for a code is a list or a table, and the
    configuration that the form then holds, if it holds one, can be written and checked. -/
theorem fillForm_fills_iff {content : Text} {nesting : Nesting} {fields : List (Text × Value)}
    (read : Json.read content nesting = .ok (.table fields)) (s : Session) :
    (∃ t, (fillForm (.ofTable fields)).run s = .ok ⟨⟩ t ∧ Fills (.ofTable fields) s t) ↔
      (∀ f : Coded, CanBeLookedUp ((Config.ofTable fields).single f.single)) ∧
        ∀ form d, s.builder.form.fill (.ofTable fields) = .ok form → form.config = .ok d →
          Presentable d ∧ ∃ line, s.builder.processes = .text line := by
  have short : ∀ f, ((Config.ofTable fields).get f).IsShort := by
    cases Json.isShort_of_read read with
    | table values => exact Config.isShort_ofTable values
  generalize Config.ofTable fields = c at short ⊢
  constructor
  · rintro ⟨t, done, -⟩
    obtain ⟨offers, filling⟩ := exists_offers_of_run done
    refine ⟨fun f => ?_, fun form d same holds => ?_⟩
    · obtain ⟨found, looked, -⟩ := Attempt.exists_of_bind (filling (.coded f))
      exact canBeLookedUp_of_isCode looked
    · cases (fill_eq filling s.builder.form).symm.trans same
      obtain ⟨changes, ran⟩ := run_fillForm_eq filling s
      rw [done] at ran
      split at ran
      · rename_i u refreshed
        exact (exists_refreshBuilder_iff (isTyped_of_filling filling _)).mp ⟨u, refreshed⟩ d holds
      · cases ran
  · rintro ⟨able, renders⟩
    choose offers filling using exists_filling short able
    obtain ⟨changes, ran⟩ := run_fillForm_eq filling s
    have typed : (s.withForm (s.builder.form.acceptAny offers Slot.all)
        changes).builder.form.IsTyped := isTyped_of_filling filling _
    obtain ⟨u, refreshed⟩ := (exists_refreshBuilder_iff typed).mpr
      (renders _ · (fill_eq filling s.builder.form))
    rw [refreshed] at ran
    exact ⟨_, ran, fills_of_run_fillForm ran⟩

/-- The configuration of a JSON object. -/
def configOf? (content : Text) : Option Config :=
  match Json.read content with
  | .ok (.table fields) => some (.ofTable fields)
  | _ => none

theorem exists_read_of_configOf? {content : Text} {c : Config}
    (found : configOf? content = some c) :
    ∃ fields, Json.read content = .ok (.table fields) ∧ Config.ofTable fields = c := by
  rw [configOf?] at found
  split at found
  · rename_i fields read
    exact ⟨fields, read, Option.some.inj found⟩
  · cases found

/-- A truth value and nothing for codes, a number for a name, texts for numbers. -/
def oddFile : Text :=
  "\x7b\"pmap\": true, \"swap\": null, \"out_file\": 5, \"ns\": \"1, 2\", \"threshold\": \"16\"\x7d"

theorem fillForm_fills_oddFile :
    Reached plainStart ∧ ∃ fields, Json.read oddFile = .ok (.table fields) ∧
      (∃ t, (fillForm (.ofTable fields)).run plainStart = .ok ⟨⟩ t ∧
        Fills (.ofTable fields) plainStart t) ∧
      (∀ f : Coded, CanBeLookedUp ((Config.ofTable fields).single f.single)) ∧
        ∀ form d, plainStart.builder.form.fill (.ofTable fields) = .ok form →
          form.config = .ok d →
            Presentable d ∧ ∃ line, plainStart.builder.processes = .text line := by
  have passes :
      ((configOf? oddFile).any fun c => ((fillForm c).ended? plainStart).isSome) = true := by
    decide +kernel
  obtain ⟨c, found, passes⟩ := (Option.any_eq_true _ _).mp passes
  obtain ⟨fields, read, rfl⟩ := exists_read_of_configOf? found
  obtain ⟨t, ended⟩ := Option.isSome_iff_exists.mp passes
  have ran := Step.run_of_ended? ended
  have filled : ∃ t, (fillForm (.ofTable fields)).run plainStart = .ok ⟨⟩ t ∧
      Fills (.ofTable fields) plainStart t := ⟨t, ran, fills_of_run_fillForm ran⟩
  exact ⟨reached_plainStart, fields, read, filled, (fillForm_fills_iff read plainStart).mp filled⟩

/-- A list in the place of a code, after another field and before one. -/
def listedCode : Text := "\x7b\"ns\": [5], \"pmap\": [0], \"swap\": 1\x7d"

/-- Over a list in the place of a code, filling the form stops: what comes before it was entered,
    what comes after it was not. -/
theorem not_fills_listedCode :
    Reached plainStart ∧ ∃ fields e t, Json.read listedCode = .ok (.table fields) ∧
      (fillForm (.ofTable fields)).run plainStart = .error e t ∧
      plainStart.builder.form.entry (.list .ns) ≠ .text "5" ∧
      t.builder.form.entry (.list .ns) = .text "5" ∧
      (Config.ofTable fields).swap.same (.int 1) = true ∧
      (t.builder.form.entry (.coded .swap)).same (.int 1) = false := by
  have passes : ((configOf? listedCode).any fun c => ((fillForm c).failed? plainStart).any fun t =>
      !(Value.text "5").same (plainStart.builder.form.entry (.list .ns)) &&
        (Value.text "5").same (t.builder.form.entry (.list .ns)) &&
        c.swap.same (.int 1) && !(t.builder.form.entry (.coded .swap)).same (.int 1)) = true := by
    decide +kernel
  obtain ⟨c, found, passes⟩ := (Option.any_eq_true _ _).mp passes
  obtain ⟨fields, read, rfl⟩ := exists_read_of_configOf? found
  obtain ⟨t, failed, passes⟩ := (Option.any_eq_true _ _).mp passes
  obtain ⟨e, ran⟩ := Step.exists_of_failed? failed
  simp only [Bool.and_eq_true, Bool.not_eq_true'] at passes
  obtain ⟨⟨⟨before, after⟩, wanted⟩, left⟩ := passes
  refine ⟨reached_plainStart, fields, e, t, read, ran, ?_, same_text_eq_true.mp after, wanted,
    left⟩
  intro same
  rw [same_text_eq_true.mpr same] at before
  cases before

end Editor

end ClusterPrep
