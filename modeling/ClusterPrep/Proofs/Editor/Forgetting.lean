import ClusterPrep.Proofs.Editor.OddValues

set_option autoImplicit false

/-
  Filling the form from a configuration of numbers, whatever the form held. All lines are replaced;
  but a value that counts as equal to a code stays where the code would go, as a truth value or a
  real does that was loaded before. So two forms that are filled alike come to differ exactly where
  such a value stays.
-/
namespace ClusterPrep.Editor

open Hpl

/-- A configuration of numbers: codes where codes are chosen, numbers within the reals elsewhere,
    and any text or none for the output file. -/
structure Numeric (c : Config) : Prop where
  outFile : c.outFile = .null ∨ ∃ s, c.outFile = .text s
  coded : ∀ f : Coded, ∃ i ∈ f.codes, c.single f.single = .int i
  amount : ∀ f : Amount, IsQuantity (c.single f.single)
  nonempty : ∀ f, c.multi f ≠ []
  quantities : ∀ f, ∀ v ∈ c.multi f, IsQuantity v

/-- A value stays at a place for a code of the configuration: it counts as equal to the code but is
    another value. -/
def Stays (c : Config) (form : Form) (f : Coded) : Prop :=
  (c.single f.single).same (form.entry (.coded f)) = true ∧
    form.entry (.coded f) ≠ c.single f.single

/-- What stands at a place for a code once the form was filled. -/
def codeAfter (c : Config) (form : Form) (f : Coded) : Value :=
  (form.entry (.coded f)).replacedBy (c.single f.single)

section

variable {c : Config} {form other : Form} {f : Coded}

theorem stays_congr (same : form.entry (.coded f) = other.entry (.coded f)) :
    Stays c form f ↔ Stays c other f := by
  rw [Stays, Stays, same]

theorem codeAfter_of_stays (stays : Stays c form f) :
    codeAfter c form f = form.entry (.coded f) := by
  rw [codeAfter, Value.replacedBy, if_pos stays.1]

theorem codeAfter_of_not_stays (leaves : ¬ Stays c form f) :
    codeAfter c form f = c.single f.single := by
  rw [codeAfter, Value.replacedBy]
  split
  · rename_i equal
    by_contra another
    exact leaves ⟨equal, another⟩
  · rfl

/-- Two forms hold the same at a place for a code, once they were filled, unless a value stays that
    the other one does not have. -/
theorem codeAfter_eq_iff :
    codeAfter c form f = codeAfter c other f ↔
      (Stays c form f ∨ Stays c other f → form.entry (.coded f) = other.entry (.coded f)) := by
  by_cases first : Stays c form f
  · by_cases second : Stays c other f
    · rw [codeAfter_of_stays first, codeAfter_of_stays second]
      exact ⟨fun same _ => same, fun same => same (.inl first)⟩
    · rw [codeAfter_of_stays first, codeAfter_of_not_stays second]
      exact iff_of_false first.2 fun same =>
        second ((stays_congr (same (.inl first))).mp first)
  · by_cases second : Stays c other f
    · rw [codeAfter_of_not_stays first, codeAfter_of_stays second]
      exact iff_of_false (Ne.symm second.2) fun same =>
        first ((stays_congr (same (.inr second))).mpr second)
    · rw [codeAfter_of_not_stays first, codeAfter_of_not_stays second]
      refine iff_of_true rfl ?_
      rintro (stays | stays)
      · exact absurd stays first
      · exact absurd stays second

end

/-! ### The configuration that the form comes to hold -/

/-- The configuration with the first word of its output file and with other codes. -/
def withCodes (c : Config) (codes : Coded → Value) : Config :=
  { c with
    outFile := Form.fileName (wordOf c.outFile)
    outDevice := codes .outDevice
    pmap := codes .pmap
    swap := codes .swap
    l1 := codes .l1
    u := codes .u
    equilibration := codes .equilibration }

section

variable (c : Config) (codes : Coded → Value)

theorem single_coded_withCodes (f : Coded) : (withCodes c codes).single f.single = codes f := by
  cases f <;> rfl

theorem single_amount_withCodes (f : Amount) :
    (withCodes c codes).single f.single = c.single f.single := by
  cases f <;> rfl

theorem multi_withCodes (f : Multi) : (withCodes c codes).multi f = c.multi f := by
  cases f <;> rfl

end

/-- A value that counts as equal to a code is a number that can be shown, within the reals. -/
theorem number_of_same_int {v : Value} {i : Int} (equal : (Value.int i).same v = true)
    (finite : (Binary64.ofInt i).isFinite = true) :
    v ≠ .null ∧ Within v ∧ ∃ s, v.shown = .ok s := by
  cases v with
  | int j =>
      cases same_int_eq_true.mp equal
      exact ⟨by simp, finite, IsQuantity.exists_shown (v := .int i) finite⟩
  | bool b => exact ⟨by simp, trivial, _, rfl⟩
  | real x => exact ⟨by simp, trivial, _, shown_real x⟩
  | _ => simp [Value.same_of_number? (v := .int i) rfl, Value.number?] at equal

section

variable {c : Config} (numeric : Numeric c)
include numeric

theorem number_codeAfter (form : Form) (f : Coded) :
    codeAfter c form f ≠ .null ∧ Within (codeAfter c form f) ∧
      ∃ s, (codeAfter c form f).shown = .ok s := by
  obtain ⟨i, member, code⟩ := numeric.coded f
  have finite := isFinite_of_mem_codes f i member
  rw [codeAfter, code, Value.replacedBy]
  split
  · rename_i equal
    exact number_of_same_int equal finite
  · exact number_of_same_int (same_int_eq_true.mpr rfl) finite

theorem filling_of_numeric (slot : Slot) : Form.filling c slot = .ok (some (offers c slot)) := by
  cases slot with
  | outFile =>
      rcases numeric.outFile with missing | ⟨s, named⟩
      · rw [Form.filling, offers, missing]
        rfl
      · rw [Form.filling, offers, named]
        rfl
  | coded f =>
      obtain ⟨i, member, code⟩ := numeric.coded f
      rw [Form.filling, offers, code, isCode_of_mem member]
      rfl
  | amount f =>
      have figure := isFigure_of_isQuantity (numeric.amount f)
      have shown : Form.valueText (c.single f.single) = .ok (wordOf (c.single f.single)) := by
        rw [← shown_of_hasWord figure.hasWord]
        cases held : c.single f.single with
        | null =>
            rw [held] at figure
            exact absurd figure id
        | _ => rfl
      rw [Form.filling, shown]
      rfl
  | list f =>
      have shown : Value.shownAll (c.multi f) = .ok (Text.unwords ((c.multi f).map wordOf)) := by
        rw [Value.shownAll, Attempt.mapM_eq_ok fun v member =>
          shown_of_hasWord (isFigure_of_isQuantity (numeric.quantities f v member)).hasWord]
        rfl
      rw [Form.filling, shown]
      rfl

/-- A form that was filled from numbers holds them, with the codes that stand there now. -/
theorem config_of_numeric (form : Form) :
    (form.acceptAll (offers c) Slot.all).config = .ok (withCodes c (codeAfter c form)) := by
  have entry (slot : Slot) : (form.acceptAll (offers c) Slot.all).entry slot =
      (form.entry slot).replacedBy (offers c slot) := by
    rw [Form.entry_acceptAll _ form Slot.nodup_all, if_pos slot.mem_all]
  have typed (slot : Slot) {s : Text} (offer : offers c slot = .text s) :
      (form.acceptAll (offers c) Slot.all).entry slot = .text s := by
    rw [entry, offer, replacedBy_text_eq]
  refine Form.config_of_value fun slot => ?_
  cases slot with
  | outFile =>
      rw [Form.value, typed .outFile rfl]
      rfl
  | coded f =>
      have held : (withCodes c (codeAfter c form)).get (Slot.coded f).field =
          codeAfter c form f := single_coded_withCodes c _ f
      rw [held]
      exact Form.value_coded (entry _) (number_codeAfter numeric form f).1
  | amount f =>
      have held : (withCodes c (codeAfter c form)).get (Slot.amount f).field =
          c.single f.single := single_amount_withCodes c _ f
      rw [held]
      exact Form.value_amount (typed (.amount f) rfl) (isFigure_of_isQuantity (numeric.amount f))
  | list f =>
      have held : (withCodes c (codeAfter c form)).get (Slot.list f).field =
          .list (c.multi f) := congrArg Value.list (multi_withCodes c _ f)
      rw [held]
      exact Form.value_list (typed (.list f) rfl) (numeric.nonempty f)
        fun v member => isFigure_of_isQuantity (numeric.quantities f v member)

theorem presentable_of_numeric (form : Form) : Presentable (withCodes c (codeAfter c form)) := by
  refine ⟨⟨fun f other => ?_, fun f v member => ?_⟩, fun f => ?_⟩
  · rcases exists_coded_or_amount other with ⟨g, rfl⟩ | ⟨g, rfl⟩
    · rw [single_coded_withCodes]
      exact (number_codeAfter numeric form g).2.1
    · rw [single_amount_withCodes]
      exact exists_isNumber_iff.mp (numeric.amount g).exists_isNumber
  · rw [multi_withCodes] at member
    exact exists_isNumber_iff.mp (numeric.quantities f v member).exists_isNumber
  · rw [single_coded_withCodes]
    exact (number_codeAfter numeric form f).2.2

/-- The output and the line of status for a configuration and a line of processes. -/
def rendering (line : Text) (d : Config) : Attempt (Text × Text) := do
  let output ← Hpl.write d
  let count ← (Count.readProcesses line).unlessBadValue
  let problems ← Hpl.problems d (countValue count)
  return (output, statusText (verdict problems))

/-- Filling the form from numbers succeeds, and what is shown then goes by the configuration that
    the form comes to hold and by the line of processes alone. -/
theorem run_fillForm_of_numeric {s : Session} {line : Text}
    (typed : s.builder.processes = .text line) :
    ∃ t, (fillForm c).run s = .ok ⟨⟩ t ∧
      t.builder.form.config = .ok (withCodes c (codeAfter c s.builder.form)) ∧
      rendering line (withCodes c (codeAfter c s.builder.form)) =
        .ok (t.builder.output, t.builder.status) := by
  obtain ⟨changes, ran⟩ := run_fillForm_of_filling (filling_of_numeric numeric) s
  have holds := config_of_numeric numeric s.builder.form
  obtain ⟨within, shown⟩ := presentable_of_numeric numeric s.builder.form
  obtain ⟨output, written⟩ := exists_write_of_config holds shown
  obtain ⟨count, counted, countable⟩ := exists_count typed
  obtain ⟨problems, checked⟩ := exists_problems_of_config holds within countable
  have same : s.builder.processCount = Count.readProcesses line := by
    rw [Builder.processCount, typed]
    rfl
  have counted' : (s.withForm (s.builder.form.acceptAll (offers c) Slot.all)
      changes).builder.processCount.unlessBadValue = .ok count := counted
  have held : (s.withForm (s.builder.form.acceptAll (offers c) Slot.all)
      changes).builder.form.config = .ok (withCodes c (codeAfter c s.builder.form)) := holds
  rw [refreshBuilder_eq held written, counted'] at ran
  simp only [bind, Except.bind, checked] at ran
  refine ⟨_, ran, holds, ?_⟩
  rw [rendering, written, ← same, counted]
  simp only [bind, Except.bind, checked]
  rfl

end

/-- **When loading a configuration forgets the past.** Two sessions with the same line of processes
    are filled from a configuration of numbers without a failure. They come to hold the same
    configuration, with the same output and status, exactly if no value stays in one of them, in
    the place of an equal code, that the other one does not have. -/
theorem fillForm_forgets_iff {c : Config} (numeric : Numeric c) {s s' : Session} {line : Text}
    (typed : s.builder.processes = .text line) (typed' : s'.builder.processes = .text line) :
    ∃ t t' d d', (fillForm c).run s = .ok ⟨⟩ t ∧ (fillForm c).run s' = .ok ⟨⟩ t' ∧
      t.builder.form.config = .ok d ∧ t'.builder.form.config = .ok d' ∧
      ((d = d' ∧ t.builder.output = t'.builder.output ∧ t.builder.status = t'.builder.status) ↔
        ∀ f : Coded, Stays c s.builder.form f ∨ Stays c s'.builder.form f →
          s.builder.form.entry (.coded f) = s'.builder.form.entry (.coded f)) := by
  obtain ⟨t, ran, holds, shown⟩ := run_fillForm_of_numeric numeric typed
  obtain ⟨t', ran', holds', shown'⟩ := run_fillForm_of_numeric numeric typed'
  refine ⟨t, t', _, _, ran, ran', holds, holds', ?_⟩
  simp only [← codeAfter_eq_iff]
  constructor
  · rintro ⟨same, -, -⟩ f
    rw [← single_coded_withCodes c (codeAfter c s.builder.form), same, single_coded_withCodes]
  · intro same
    have codes : codeAfter c s.builder.form = codeAfter c s'.builder.form := funext same
    rw [codes] at shown
    have both := Except.ok.inj (shown.symm.trans shown')
    exact ⟨by rw [codes], (Prod.ext_iff.mp both).1, (Prod.ext_iff.mp both).2⟩

/-- The start after a preset with a truth value for the process mapping was loaded. -/
def withTruth : Session :=
  (plainStart.take (fillForm (.ofTable [("pmap", .bool true)]))).2

theorem reached_withTruth : Reached withTruth := by
  rw [withTruth]
  exact reached_plainStart.take (.fill (.ofTable [("pmap", .bool true)])) (by decide +kernel)

theorem processes_plainStart : plainStart.builder.processes = .text "4" :=
  same_text_eq_true.mp (by decide +kernel)

theorem processes_withTruth : withTruth.builder.processes = .text "4" :=
  same_text_eq_true.mp (by decide +kernel)

/-- The default configuration with a code for the process mapping. -/
def mapped (code : Int) : Config := { ({} : Config) with pmap := .int code }

theorem numeric_mapped {code : Int} (member : code ∈ Coded.pmap.codes) : Numeric (mapped code) where
  outFile := .inr ⟨_, rfl⟩
  coded f := by
    cases f with
    | pmap => exact ⟨code, member, rfl⟩
    | outDevice => exact ⟨6, by decide, rfl⟩
    | swap => exact ⟨2, by decide, rfl⟩
    | l1 => exact ⟨0, by decide, rfl⟩
    | u => exact ⟨0, by decide, rfl⟩
    | equilibration => exact ⟨1, by decide, rfl⟩
  amount f := by
    have each : ∀ f : Amount, IsQuantity (({} : Config).single f.single) := by
      intro f
      cases f <;> decide +kernel
    have same : (mapped code).single f.single = ({} : Config).single f.single := by
      cases f <;> rfl
    rw [same]
    exact each f
  nonempty f := by cases f <;> simp [mapped, Config.multi]
  quantities f := by
    have each : ∀ f ∈ multis, ∀ v ∈ ({} : Config).multi f, IsQuantity v := by decide +kernel
    have same : (mapped code).multi f = ({} : Config).multi f := by cases f <;> rfl
    rw [same]
    exact each f (mem_multis f)

/-- A whole number does not stay in the place of an equal one. -/
theorem not_stays_of_isChosen {c : Config} (numeric : Numeric c) {form : Form} {f : Coded}
    (chosen : form.isChosen f = true) : ¬ Stays c form f := by
  obtain ⟨i, -, code⟩ := numeric.coded f
  obtain ⟨j, -, entry⟩ := Form.exists_of_isChosen chosen
  rintro ⟨equal, other⟩
  rw [code, entry] at equal other
  rw [same_int_eq_true.mp equal] at other
  exact other rfl

/-- A truth value that was loaded is replaced by the code that it is not equal to. -/
theorem fillForm_forgets_withTruth :
    Numeric (mapped 0) ∧ plainStart.builder.processes = .text "4" ∧
      withTruth.builder.processes = .text "4" ∧
      ∃ t t' d d', (fillForm (mapped 0)).run plainStart = .ok ⟨⟩ t ∧
        (fillForm (mapped 0)).run withTruth = .ok ⟨⟩ t' ∧
        t.builder.form.config = .ok d ∧ t'.builder.form.config = .ok d' ∧
        d = d' ∧ t.builder.output = t'.builder.output ∧ t.builder.status = t'.builder.status := by
  have numeric : Numeric (mapped 0) := numeric_mapped (by decide)
  obtain ⟨t, t', d, d', ran, ran', holds, holds', alike⟩ :=
    fillForm_forgets_iff numeric processes_plainStart processes_withTruth
  have first : ∀ f ∈ Coded.all, plainStart.builder.form.isChosen f = true := by decide +kernel
  have second : ∀ f ∈ Coded.all, f ≠ .pmap → withTruth.builder.form.isChosen f = true := by
    decide +kernel
  refine ⟨numeric, processes_plainStart, processes_withTruth, t, t', d, d', ran, ran', holds,
    holds', alike.mpr fun f stays => ?_⟩
  rcases stays with stays | stays
  · exact absurd stays (not_stays_of_isChosen numeric (first f f.mem_all))
  · by_cases mapping : f = .pmap
    · subst mapping
      have apart : (Value.int 0).same (withTruth.builder.form.entry (.coded .pmap)) = false := by
        decide +kernel
      have equal : (Value.int 0).same (withTruth.builder.form.entry (.coded .pmap)) = true :=
        stays.1
      rw [apart] at equal
      cases equal
    · exact absurd stays (not_stays_of_isChosen numeric (second f f.mem_all mapping))

/-- The truth value stays in the place of the code one. -/
theorem fillForm_not_forgets_withTruth :
    Reached plainStart ∧ Reached withTruth ∧
      plainStart.builder.processes = withTruth.builder.processes ∧ Numeric (mapped 1) ∧
      ∃ t t' d d', (fillForm (mapped 1)).run plainStart = .ok ⟨⟩ t ∧
        (fillForm (mapped 1)).run withTruth = .ok ⟨⟩ t' ∧
        t.builder.form.config = .ok d ∧ t'.builder.form.config = .ok d' ∧
        d ≠ d' ∧ t.builder.output ≠ t'.builder.output ∧ t.builder.status ≠ t'.builder.status := by
  have numeric : Numeric (mapped 1) := numeric_mapped (by decide)
  have kinds : (codeAfter (mapped 1) plainStart.builder.form .pmap).kindName ≠
      (codeAfter (mapped 1) withTruth.builder.form .pmap).kindName := by
    decide +kernel
  have passes : (((fillForm (mapped 1)).ended? plainStart).any fun t =>
      ((fillForm (mapped 1)).ended? withTruth).any fun t' =>
        decide (t.builder.output ≠ t'.builder.output ∧
          t.builder.status ≠ t'.builder.status)) = true := by
    decide +kernel
  obtain ⟨t, ended, passes⟩ := (Option.any_eq_true _ _).mp passes
  obtain ⟨t', ended', panels⟩ := (Option.any_eq_true _ _).mp passes
  have ran := Step.run_of_ended? ended
  have ran' := Step.run_of_ended? ended'
  obtain ⟨u, again, holds, -⟩ := run_fillForm_of_numeric numeric processes_plainStart
  obtain ⟨u', again', holds', -⟩ := run_fillForm_of_numeric numeric processes_withTruth
  cases ran.symm.trans again
  cases ran'.symm.trans again'
  refine ⟨reached_plainStart, reached_withTruth,
    processes_plainStart.trans processes_withTruth.symm, numeric, t, t', _, _, ran, ran', holds,
    holds', fun same => kinds ?_, of_decide_eq_true panels⟩
  have codes := congrArg (Config.single · Coded.pmap.single) same
  simp only [single_coded_withCodes] at codes
  rw [codes]

end ClusterPrep.Editor
