import ClusterPrep.Editor.FormSteps
import ClusterPrep.Proofs.Editor.Form
import ClusterPrep.Proofs.Editor.Runs
import ClusterPrep.Proofs.Editor.WriteFile
import ClusterPrep.Proofs.Hpl.Check
import ClusterPrep.Proofs.Quantity.Count

set_option autoImplicit false

/-
  Filling the form from a configuration, and what the form holds afterwards. Numbers are shown as
  texts and read again, and a code replaces the one that was chosen before, so that the form comes
  to hold the configuration whatever it held.
-/
namespace ClusterPrep.Editor

open Hpl Text

/-! ### What a place is offered -/

theorem same_text_eq_true {s : Text} {v : Value} : (Value.text s).same v = true ↔ v = .text s := by
  cases v with
  | text t => rw [Value.same_text, beq_iff_eq, Value.text.injEq, eq_comm]
  | _ => simp [Value.same, Value.number?]

theorem same_int_eq_true {i j : Int} : (Value.int i).same (.int j) = true ↔ i = j := by
  simp [Value.same, Value.number?, Number.eq]

theorem replacedBy_text_eq (old : Value) (s : Text) : old.replacedBy (.text s) = .text s := by
  rw [Value.replacedBy]
  split
  · rename_i same
    exact same_text_eq_true.mp same
  · rfl

theorem replacedBy_int_eq (i j : Int) : (Value.int i).replacedBy (.int j) = .int j := by
  rw [Value.replacedBy]
  split
  · rename_i same
    rw [same_int_eq_true.mp same]
  · rfl

namespace Form

/-- The form after a place was offered a value, which does not replace one that is equal. -/
def accept (form : Form) (slot : Slot) (v : Value) : Form :=
  if v.same (form.entry slot) then form else form.set slot v

theorem entry_accept_self (form : Form) (slot : Slot) (v : Value) :
    (form.accept slot v).entry slot = (form.entry slot).replacedBy v := by
  rw [accept, Value.replacedBy]
  split
  · rfl
  · exact form.entry_set_self slot v

theorem entry_accept_of_ne (form : Form) {slot other : Slot} (apart : other ≠ slot) (v : Value) :
    (form.accept slot v).entry other = form.entry other := by
  rw [accept]
  split
  · rfl
  · exact form.entry_set_of_ne slot other v apart

/-- The form after a place was offered a value, or none. -/
def offered (form : Form) (slot : Slot) : Option Value → Form
  | some v => form.accept slot v
  | none => form

/-- The form after some places were offered values, or none. -/
def acceptAny (form : Form) (offers : Slot → Option Value) (slots : List Slot) : Form :=
  slots.foldl (fun form slot => form.offered slot (offers slot)) form

/-- What becomes of a place that is offered a value, or none. -/
def outcome (form : Form) (slot : Slot) : Option Value → Filled
  | some v => if v.same (form.entry slot) then .unchanged else .changed (form.set slot v)
  | none => .skipped

/-- What stands at a place after it was offered a value, or none. -/
def standing (old : Value) : Option Value → Value
  | some v => old.replacedBy v
  | none => old

theorem entry_offered_self (form : Form) (slot : Slot) (offer : Option Value) :
    (form.offered slot offer).entry slot = standing (form.entry slot) offer := by
  cases offer with
  | none => rfl
  | some v => exact form.entry_accept_self slot v

theorem entry_offered_of_ne (form : Form) {slot other : Slot} (apart : other ≠ slot)
    (offer : Option Value) : (form.offered slot offer).entry other = form.entry other := by
  cases offer with
  | none => rfl
  | some v => exact form.entry_accept_of_ne apart v

/-- Every place takes what it was offered, and the others are left alone. -/
theorem entry_acceptAny (offers : Slot → Option Value) {slots : List Slot} (form : Form)
    (distinct : slots.Nodup) (slot : Slot) :
    (form.acceptAny offers slots).entry slot =
      if slot ∈ slots then standing (form.entry slot) (offers slot) else form.entry slot := by
  induction slots generalizing form with
  | nil => rfl
  | cons first slots ih =>
      obtain ⟨fresh, distinct⟩ := List.nodup_cons.mp distinct
      have rest := ih (form.offered first (offers first)) distinct
      rw [acceptAny, List.foldl_cons, ← acceptAny, rest]
      by_cases here : slot = first
      · subst here
        rw [if_neg fresh, if_pos (by simp), entry_offered_self]
      · rw [entry_offered_of_ne form here]
        simp [here]

/-- The form after some places were offered values. -/
def acceptAll (form : Form) (offers : Slot → Value) (slots : List Slot) : Form :=
  slots.foldl (fun form slot => form.accept slot (offers slot)) form

theorem acceptAll_eq (form : Form) (offers : Slot → Value) (slots : List Slot) :
    form.acceptAll offers slots = form.acceptAny (fun slot => some (offers slot)) slots := rfl

theorem entry_acceptAll (offers : Slot → Value) {slots : List Slot} (form : Form)
    (distinct : slots.Nodup) (slot : Slot) :
    (form.acceptAll offers slots).entry slot =
      if slot ∈ slots then (form.entry slot).replacedBy (offers slot) else form.entry slot :=
  form.entry_acceptAny (fun slot => some (offers slot)) distinct slot

end Form

/-! ### Filling the form -/

/-- The session with another form and other edits to follow on. -/
def Session.withForm (s : Session) (form : Form) (changes : List Change) : Session :=
  { s with builder := { s.builder with form }, changes }

section

variable {c : Config}

/-- The label of a place that is offered nothing. -/
def passedOver (slot : Slot) (offer : Option Value) : Option String :=
  if offer.isNone then some slot.label else none

theorem fillSlot_eq {form : Form} {slot : Slot} {offer : Option Value}
    (filling : Form.filling c slot = .ok offer) :
    form.fillSlot c slot = .ok (form.outcome slot offer) := by
  rw [Form.fillSlot, filling]
  cases offer with
  | none => rfl
  | some v =>
      rw [Form.outcome]
      simp only [bind, Except.bind]
      split <;> rfl

/-- A form of which all places can be filled accepts what it is offered. -/
theorem fill_eq {offers : Slot → Option Value}
    (filling : ∀ slot, Form.filling c slot = .ok (offers slot)) (form : Form) :
    form.fill c = .ok (form.acceptAny offers Slot.all) := by
  refine Attempt.foldlM_eq_ok fun slot _ form => ?_
  rw [fillSlot_eq (filling slot)]
  cases offers slot with
  | none => rfl
  | some v =>
      rw [Form.outcome, Form.offered, Form.accept]
      split <;> rfl

/-- A place that can be filled accepts what it is offered. -/
theorem run_fillPlace {slot : Slot} {offer : Option Value}
    (filling : Form.filling c slot = .ok offer) (s : Session) :
    ∃ changes, (fillPlace c slot).run s =
      .ok (passedOver slot offer) (s.withForm (s.builder.form.offered slot offer) changes) := by
  rw [fillPlace, Step.run_bind_of_ok (Step.run_get s), fillSlot_eq filling,
    Step.run_bind_of_ok (Step.run_ofAttempt_ok s _)]
  cases offer with
  | none => exact ⟨s.changes, rfl⟩
  | some v =>
      rw [Form.outcome, Form.offered, Form.accept]
      by_cases same : v.same (s.builder.form.entry slot) = true
      · simp only [if_pos same]
        exact ⟨s.changes, rfl⟩
      · simp only [if_neg same]
        exact ⟨s.changes ++ [.form], rfl⟩

/-- Places that can be filled accept what they are offered, one after the other. -/
theorem run_fillPlaces {offers : Slot → Option Value}
    (filling : ∀ slot, Form.filling c slot = .ok (offers slot)) (slots : List Slot)
    (s : Session) :
    ∃ changes, (fillPlaces c slots).run s =
      .ok ((slots.filter fun slot => (offers slot).isNone).map Slot.label)
        (s.withForm (s.builder.form.acceptAny offers slots) changes) := by
  induction slots generalizing s with
  | nil => exact ⟨s.changes, rfl⟩
  | cons slot slots ih =>
      obtain ⟨changes, first⟩ := run_fillPlace (filling slot) s
      obtain ⟨changes', rest⟩ := ih _
      refine ⟨changes', ?_⟩
      rw [fillPlaces, Step.run_bind_of_ok first, Step.run_bind_of_ok rest, List.filter_cons,
        passedOver]
      cases (offers slot).isNone <;> rfl

/-- The session in which the places of some labels are named as passed over. -/
def Session.naming (s : Session) (labels : List String) : Session :=
  if labels.isEmpty then s
  else s.onBuilder (·.reporting
    (warning ("Unsupported codes kept at previous value: " ++ ", ".intercalate labels)))

/-- Filling the form offers every place its value, refreshes the builder, and then names the places
    that were passed over. -/
theorem run_fillForm_eq {offers : Slot → Option Value}
    (filling : ∀ slot, Form.filling c slot = .ok (offers slot)) (s : Session) :
    ∃ changes, (fillForm c).run s =
      match refreshBuilder.run
        (s.withForm (s.builder.form.acceptAny offers Slot.all) changes) with
      | .ok _ t => .ok ⟨⟩ (t.naming
          ((Slot.all.filter fun slot => (offers slot).isNone).map Slot.label))
      | .error e t => .error e t := by
  obtain ⟨changes, filled⟩ := run_fillPlaces filling Slot.all s
  refine ⟨changes, ?_⟩
  rw [fillForm, Step.run_bind_of_ok filled, Step.run_bind]
  cases refreshBuilder.run _ with
  | error e t => rfl
  | ok u t =>
      dsimp only
      rw [Session.naming]
      cases (List.map Slot.label _).isEmpty <;> rfl

/-- If no place is passed over, filling the form offers every place its value and then refreshes the
    builder. -/
theorem run_fillForm_of_filling {offers : Slot → Value}
    (filling : ∀ slot, Form.filling c slot = .ok (some (offers slot))) (s : Session) :
    ∃ changes, (fillForm c).run s = refreshBuilder.run
      (s.withForm (s.builder.form.acceptAll offers Slot.all) changes) := by
  obtain ⟨changes, filled⟩ := run_fillForm_eq filling s
  refine ⟨changes, ?_⟩
  rw [filled, ← Form.acceptAll_eq]
  cases refreshBuilder.run _ <;> rfl

end

/-- What a configuration offers to the places of the form: its codes, and the words of its other
    values. -/
def offers (c : Config) : Slot → Value
  | .outFile => .text (wordOf c.outFile)
  | .coded f => c.single f.single
  | .amount f => .text (wordOf (c.single f.single))
  | .list f => .text (unwords ((c.multi f).map wordOf))

/-- A configuration whose values have words, and codes where codes are chosen. -/
structure Offered (c : Config) : Prop extends c.Worded where
  coded : ∀ f : Coded, Form.isCode f.codes (c.single f.single) = .ok true

section

variable {c : Config} (able : Offered c)
include able

theorem filling_of_offered (slot : Slot) : Form.filling c slot = .ok (some (offers c slot)) := by
  cases slot with
  | outFile =>
      have name := able.outFile
      rw [Form.filling, offers]
      cases held : c.outFile <;> rw [held] at name <;>
        first | rfl | exact absurd name id
  | coded f =>
      rw [Form.filling, able.coded f]
      rfl
  | amount f =>
      have other : f.single ≠ .outFile := by cases f <;> decide
      have shown : Form.valueText (c.single f.single) = .ok (wordOf (c.single f.single)) := by
        rcases able.single f.single other with missing | worded
        · rw [missing]
          rfl
        · have present : c.single f.single ≠ .null := by
            intro missing
            rw [missing] at worded
            exact worded
          rw [Form.valueText.eq_2 _ present, shown_of_hasWord worded]
      rw [Form.filling, shown]
      rfl
  | list f =>
      rw [Form.filling, able.shownAll_multi f]
      rfl

theorem run_fillForm (s : Session) :
    ∃ changes, (fillForm c).run s = refreshBuilder.run
      (s.withForm (s.builder.form.acceptAll (offers c) Slot.all) changes) :=
  run_fillForm_of_filling (filling_of_offered able) s

end

/-! ### Values read from the form -/

namespace Form

variable {form : Form}

theorem value_outFile {v : Value} (entered : form.entry .outFile = .text (wordOf v))
    (name : v = .null ∨ ∃ w, IsWord w ∧ v = .text w) : form.value .outFile = .ok v := by
  rw [value, entered]
  rcases name with rfl | ⟨w, word, rfl⟩
  · rfl
  · change Except.ok (fileName w) = _
    rw [fileName, words_eq_singleton word]

theorem value_coded {f : Coded} {v : Value} (chosen : form.entry (.coded f) = v)
    (present : v ≠ .null) : form.value (.coded f) = .ok v := by
  rw [value, chosen]
  cases v <;> first | rfl | exact absurd rfl present

/-- Numbers are read from the text that shows them. -/
theorem numbers_unwords (label : String) {vs : List Value} (nonempty : vs ≠ [])
    (figures : ∀ v ∈ vs, IsFigure v) :
    ∃ ns, numbers label (unwords (vs.map wordOf)) = .ok ns ∧ ns.map Value.ofNumber = vs := by
  obtain ⟨ns, read, all⟩ := Count.readList_unwords nonempty figures
  exact ⟨ns, by rw [numbers, read]; rfl, all⟩

theorem value_amount {f : Amount} {v : Value} (entered : form.entry (.amount f) = .text (wordOf v))
    (figure : IsFigure v) : form.value (.amount f) = .ok v := by
  obtain ⟨ns, read, all⟩ := numbers_unwords (Slot.amount f).label (List.cons_ne_nil v [])
    fun w member => by rwa [List.mem_singleton.mp member]
  have read : numbers (Slot.amount f).label (wordOf v) = .ok ns := read
  obtain ⟨n, rfl, same⟩ := List.map_eq_singleton_iff.mp all
  rw [value, entered]
  simp only [Value.asText, bind, Except.bind, pure, Except.pure, read, same]

theorem value_list {f : Multi} {vs : List Value}
    (entered : form.entry (.list f) = .text (unwords (vs.map wordOf))) (nonempty : vs ≠ [])
    (figures : ∀ v ∈ vs, IsFigure v) : form.value (.list f) = .ok (.list vs) := by
  obtain ⟨ns, read, all⟩ := numbers_unwords (Slot.list f).label nonempty figures
  rw [value, entered]
  simp only [Value.asText, bind, Except.bind, pure, Except.pure, read, all]

end Form

/-! ### Configurations that the form takes -/

/-- A configuration with a value for every place of the form: a name or none for the output file,
    a code where one is chosen, and numbers within the reals elsewhere. -/
structure Takes (c : Config) : Prop where
  outFile : c.outFile = .null ∨ ∃ w, IsWord w ∧ c.outFile = .text w
  coded : ∀ f : Coded, ∃ i ∈ f.codes, c.single f.single = .int i
  amount : ∀ f : Amount, IsQuantity (c.single f.single)
  nonempty : ∀ f, c.multi f ≠ []
  quantities : ∀ f, ∀ v ∈ c.multi f, IsQuantity v

/-- A whole number within the reals is not too long to be written. -/
theorem isFigure_of_isQuantity {v : Value} (quantity : IsQuantity v) : IsFigure v := by
  cases v with
  | int i => exact Binary64.length_ofNat_of_isFinite quantity
  | real x => trivial
  | _ => exact absurd quantity id

theorem isFinite_of_mem_codes (f : Coded) : ∀ i ∈ f.codes, (Binary64.ofInt i).isFinite = true := by
  cases f <;> decide +kernel

theorem isCode_of_mem {codes : List Int} {i : Int} (member : i ∈ codes) :
    Form.isCode codes (.int i) = .ok true := by
  have found : (codes.any fun j => (Value.int i).same (.int j)) = true :=
    List.any_eq_true.mpr ⟨i, member, same_int_eq_true.mpr rfl⟩
  exact congrArg Except.ok found

/-- A text in the line of processes gives a count that can be shown, or none. -/
theorem exists_count {p : Builder} {line : Text} (typed : p.processes = .text line) :
    ∃ count, p.processCount.unlessBadValue = .ok count ∧
      (countValue count = .null ∨
        ∃ k s, countValue count = .int k ∧ (countValue count).shown = .ok s) := by
  rw [Builder.processCount, typed]
  change ∃ count, (Count.readProcesses line).unlessBadValue = .ok count ∧ _
  cases read : Count.readProcesses line with
  | error e =>
      exact ⟨none, by rw [Attempt.unlessBadValue, if_pos (Count.kind_of_readProcesses read)],
        Or.inl rfl⟩
  | ok n =>
      exact ⟨some n, rfl, Or.inr ⟨n, _, rfl, shown_int (Count.length_of_readProcesses read)⟩⟩

section

variable {c : Config} (takes : Takes c)
include takes

theorem Takes.single (f : Single) (other : f ≠ .outFile) : IsQuantity (c.single f) := by
  rcases exists_coded_or_amount other with ⟨g, rfl⟩ | ⟨g, rfl⟩
  · obtain ⟨i, member, code⟩ := takes.coded g
    rw [code]
    exact isFinite_of_mem_codes g i member
  · exact takes.amount g

theorem Takes.offered : Offered c where
  outFile := by
    rcases takes.outFile with missing | ⟨w, word, named⟩
    · rw [missing]
      trivial
    · rw [named]
      exact word.2
  single f other := Or.inr (isFigure_of_isQuantity (takes.single f other)).hasWord
  multi f v member := (isFigure_of_isQuantity (takes.quantities f v member)).hasWord
  coded f := by
    obtain ⟨i, member, code⟩ := takes.coded f
    rw [code]
    exact isCode_of_mem member

/-- A form whose codes are whole numbers holds what it is filled from. -/
theorem Takes.config_acceptAll {form : Form} (chosen : ∀ f, ∃ i, form.entry (.coded f) = .int i) :
    (form.acceptAll (offers c) Slot.all).config = .ok c := by
  have entry (slot : Slot) : (form.acceptAll (offers c) Slot.all).entry slot =
      (form.entry slot).replacedBy (offers c slot) := by
    rw [Form.entry_acceptAll _ form Slot.nodup_all, if_pos slot.mem_all]
  have typed (slot : Slot) {s : Text} (offer : offers c slot = .text s) :
      (form.acceptAll (offers c) Slot.all).entry slot = .text s := by
    rw [entry, offer, replacedBy_text_eq]
  refine Form.config_of_value fun slot => ?_
  cases slot with
  | outFile => exact Form.value_outFile (typed .outFile rfl) takes.outFile
  | coded f =>
      obtain ⟨i, member, code⟩ := takes.coded f
      obtain ⟨j, before⟩ := chosen f
      have field : c.get (Slot.coded f).field = .int i := code
      rw [field]
      refine Form.value_coded ?_ (by simp)
      rw [entry, before, offers, code, replacedBy_int_eq]
  | amount f =>
      exact Form.value_amount (typed (.amount f) rfl) (isFigure_of_isQuantity (takes.amount f))
  | list f =>
      exact Form.value_list (typed (.list f) rfl) (takes.nonempty f)
        fun v member => isFigure_of_isQuantity (takes.quantities f v member)

/-- What the form takes can be checked for any number of processes that is typed in. -/
theorem Takes.exists_checked {p : Builder} {line : Text} (typed : p.processes = .text line) :
    ∃ problems, (do
      let count ← p.processCount.unlessBadValue
      Hpl.problems c (countValue count)) = .ok problems := by
  obtain ⟨count, counted, countable⟩ := exists_count typed
  obtain ⟨problems, checked⟩ := exists_problems_of_quantities takes.quantities
    (fun f other => Or.inr (takes.single f other)) countable
  exact ⟨problems, by rw [counted]; exact checked⟩

end

/-- **Filling the form and reading it.** A form whose codes are whole numbers, whatever else it
    holds, holds any configuration that it takes once it was filled from it, and the output is that
    configuration written. Nothing fails, provided that the line of processes holds a text. -/
theorem fillForm_config {s : Session} {c : Config}
    (chosen : ∀ f : Coded, ∃ i ∈ f.codes, s.builder.form.entry (.coded f) = .int i)
    (takes : Takes c) :
    ∃ output, Hpl.write c = .ok output ∧
      (stateOf ((fillForm c).run s)).builder.form.config = .ok c ∧
      (stateOf ((fillForm c).run s)).builder.output = output ∧
      ∀ line, s.builder.processes = .text line → ∃ t, (fillForm c).run s = .ok ⟨⟩ t := by
  obtain ⟨output, written, -⟩ := takes.offered.usableLines_write
  obtain ⟨changes, ran⟩ := run_fillForm takes.offered s
  have holds := takes.config_acceptAll fun f => (chosen f).imp fun i chosen => chosen.2
  have holds : (s.withForm (s.builder.form.acceptAll (offers c) Slot.all)
      changes).builder.form.config = .ok c := holds
  rw [ran, refreshBuilder_eq holds written]
  refine ⟨output, written, ?_, ?_, fun line typed => ?_⟩
  · split
    · exact holds
    · exact holds
  · split <;> rfl
  · have typed : (s.withForm (s.builder.form.acceptAll (offers c) Slot.all)
        changes).builder.processes = .text line := typed
    obtain ⟨problems, checked⟩ := takes.exists_checked typed
    exact ⟨_, by rw [checked]⟩

/-- Whether a code of the place is chosen there. -/
def Form.isChosen (form : Form) (f : Coded) : Bool :=
  match form.entry (.coded f) with
  | .int i => f.codes.contains i
  | _ => false

theorem Form.exists_of_isChosen {form : Form} {f : Coded} (chosen : form.isChosen f = true) :
    ∃ i ∈ f.codes, form.entry (.coded f) = .int i := by
  rw [isChosen] at chosen
  split at chosen
  · rename_i i entry
    exact ⟨i, List.contains_iff_mem.mp chosen, entry⟩
  · cases chosen

/-- Whole numbers beside reals, and reals without a numeral. -/
def mixed : Config where
  outFile := .null
  ns := [.int (10 ^ 200), .real (Binary64.ofInt (10 ^ 16)), .int (-7)]
  nbs := [.real (Binary64.ofInt 16), .int 16, .real .nan]
  threshold := .real (.inf true)
  alignment := .real (Binary64.ofDecimal true 25 (-1))

theorem takes_mixed : Takes mixed where
  outFile := Or.inl rfl
  coded f := by
    have chosen : ({} : Form).isChosen f = true := by cases f <;> decide
    have entry := Form.exists_of_isChosen chosen
    cases f <;> exact entry
  amount f := by cases f <;> decide +kernel
  nonempty f := by cases f <;> simp [mixed, Config.multi]
  quantities f := by
    have each : ∀ f ∈ multis, ∀ v ∈ mixed.multi f, IsQuantity v := by decide +kernel
    exact each f (mem_multis f)

/-- A form with letters in the place of numbers takes it, too. -/
theorem fillForm_config_mixed :
    (∀ f : Coded, ∃ i ∈ f.codes, withLetters.builder.form.entry (.coded f) = .int i) ∧
      Takes mixed ∧
      ∃ output, Hpl.write mixed = .ok output ∧
        (stateOf ((fillForm mixed).run withLetters)).builder.form.config = .ok mixed ∧
        (stateOf ((fillForm mixed).run withLetters)).builder.output = output ∧
        ∀ line, withLetters.builder.processes = .text line →
          ∃ t, (fillForm mixed).run withLetters = .ok ⟨⟩ t := by
  have chosen (f : Coded) :
      ∃ i ∈ f.codes, withLetters.builder.form.entry (.coded f) = .int i :=
    Form.exists_of_isChosen (by cases f <;> decide +kernel)
  exact ⟨chosen, takes_mixed, fillForm_config chosen takes_mixed⟩

end ClusterPrep.Editor
