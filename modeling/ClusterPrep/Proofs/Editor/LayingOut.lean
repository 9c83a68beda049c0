import ClusterPrep.Proofs.Editor.Entering
import ClusterPrep.Proofs.Hpl.Layout

set_option autoImplicit false

/-
  Having a grid suggested. Two lines of the form are filled with the lengths of the grid and the
  form is read again, which gives the configuration that was laid out.
-/
namespace ClusterPrep

namespace Value

/-- A value in which every whole number is within the reals, however deep it stands. -/
inductive InReals : Value → Prop
  | null : InReals .null
  | bool (b : Bool) : InReals (.bool b)
  | int {i : Int} (finite : (Binary64.ofInt i).isFinite = true) : InReals (.int i)
  | real (x : Binary64) : InReals (.real x)
  | text (s : Text) : InReals (.text s)
  | moment (m : Moment) : InReals (.moment m)
  | list {vs : List Value} (items : ∀ v ∈ vs, InReals v) : InReals (.list vs)
  | table {fs : List (Text × Value)} (values : ∀ f ∈ fs, InReals f.2) : InReals (.table fs)

theorem InReals.isShort {v : Value} (inside : v.InReals) : v.IsShort := by
  induction inside with
  | null => exact .null
  | bool b => exact .bool b
  | int finite => exact .int (Binary64.length_ofNat_of_isFinite finite)
  | real x => exact .real x
  | text s => exact .text s
  | moment m => exact .moment m
  | list _ ih => exact .list ih
  | table _ ih => exact .table ih

theorem InReals.within {v : Value} (inside : v.InReals) : Hpl.Within v := by
  cases inside with
  | int finite => exact finite
  | _ => trivial

end Value

namespace Editor

open Hpl

theorem presentable_of_inReals {c : Config} (inside : ∀ f, (c.get f).InReals) : Presentable c := by
  refine ⟨⟨fun f _ => (inside (.single f)).within, fun f v member => ?_⟩, fun f => ?_⟩
  · cases inside (.multi f) with
    | list items => exact (items v member).within
  · exact (inside (.single f.single)).isShort.exists_shown

/-! ### The form with the new grid -/

/-- The form with the lengths of a grid in its lines. -/
def Form.withGrid (form : Form) (p q : Int) : Form :=
  (form.set (.list .ps) (.text (Numeral.ofInt p))).set (.list .qs) (.text (Numeral.ofInt q))

section

variable {form : Form} {c : Config} {p q : Int}

theorem entry_withGrid_of_ne {slot : Slot} (apart : slot ≠ .list .ps) (other : slot ≠ .list .qs) :
    (form.withGrid p q).entry slot = form.entry slot := by
  rw [Form.withGrid, Form.entry_set_of_ne _ _ _ _ other, Form.entry_set_of_ne _ _ _ _ apart]

theorem config_withGrid (rows : IsLength p) (columns : IsLength q) (holds : form.config = .ok c) :
    (form.withGrid p q).config = .ok (c.withGrid p q) := by
  refine (Form.config_set_whole_iff columns.short).mpr ⟨rfl, fun slot other => ?_⟩
  by_cases here : slot = .list .ps
  · rw [here, Form.value_set_whole rows.short]
    rfl
  · rw [Form.value_set_of_ne here, Form.config_eq_ok_iff.mp holds slot,
      c.get_withGrid_of_ne p q (Slot.field_ne_multi here) (Slot.field_ne_multi other)]

end

/-! ### The step -/

/-- What it means that a grid was suggested for `n` processes and a form that held `c`: the form
    holds the configuration `d` with that grid, which is written. Nothing else in the form is
    different, and of what was wrong with it that remains which is not about grids. -/
structure LaysOut (c d : Config) (n : Int) (s t : Session) : Prop where
  grid : c.laidOut n = .ok d
  holds : t.builder.form.config = .ok d
  written : Hpl.write d = .ok t.builder.output
  fields : ∀ f, f ≠ .multi .ps → f ≠ .multi .qs → d.get f = c.get f
  entries : ∀ slot, slot ≠ .list .ps → slot ≠ .list .qs →
    t.builder.form.entry slot = s.builder.form.entry slot
  checked : ∃ found, Hpl.problems c (.int n) = .ok found ∧
    Hpl.problems d (.int n) = .ok (apartFromGrids found)

theorem shownAll_one {i : Int} (length : IsLength i) :
    Value.shownAll [.int i] = .ok (Numeral.ofInt i) := by
  rw [Value.shownAll, List.mapM_cons, shown_int length.short]
  rfl

section

variable {s : Session} {c : Config} {n p q : Int}

theorem run_refreshNearby (counted : s.builder.processCount = .ok n) :
    refreshNearby.run s =
      .ok ⟨⟩ (s.onBuilder fun b => { b with nearby := nearbyText (some n) }) := by
  rw [refreshNearby, Step.run_bind_of_ok (Step.run_get s), counted]
  rfl

/-- The lengths of the grid are entered before the builder is refreshed. -/
theorem run_suggestGrid_of_ok (counted : s.builder.processCount = .ok n)
    (holds : s.builder.form.config = .ok c) (rows : IsLength p) (columns : IsLength q)
    (grid : c.laidOut n = .ok (c.withGrid p q)) :
    ∃ u : Session, u.builder.form = s.builder.form.withGrid p q ∧
      u.builder.processCount = .ok n ∧
      suggestGrid.run s = (do
        refreshBuilder
        setBuilderStatus ((← Step.ofAttempt (Numeral.writeInt n)) ++ " processes → P=" ++
          Numeral.ofInt p ++ ", Q=" ++ Numeral.ofInt q) : Step Unit).run u := by
  have entered : s.builder.entered = .ok (n, c) := by
    rw [Builder.entered, counted, holds]
    rfl
  obtain ⟨changes, first⟩ := run_enterAt_text s (.list .ps) (Numeral.ofInt p)
  obtain ⟨changes', second⟩ := run_enterAt_text
    (s.withForm (s.builder.form.set (.list .ps) (.text (Numeral.ofInt p))) changes)
    (.list .qs) (Numeral.ofInt q)
  refine ⟨(s.withForm (s.builder.form.withGrid p q) changes').onBuilder fun b =>
    { b with nearby := nearbyText (some n) }, rfl, counted, ?_⟩
  rw [suggestGrid, Step.run_bind_of_ok (Step.run_get s), entered,
    Step.run_bind_of_ok (Step.run_orElse_ok s _ _)]
  dsimp only
  rw [grid, Step.run_bind_of_ok (Step.run_ofAttempt_ok s _)]
  dsimp only [Config.withGrid]
  rw [shownAll_one rows, Step.run_bind_of_ok (Step.run_ofAttempt_ok s _), shownAll_one columns,
    Step.run_bind_of_ok (Step.run_ofAttempt_ok s _), Step.run_bind_of_ok first,
    Step.run_bind_of_ok second]
  exact Step.run_bind_of_ok (run_refreshNearby counted)

end

theorem kind_of_entered {p : Builder} (typed : p.IsTyped) {e : Failure}
    (failed : p.entered = .error e) : e.kind = .badValue := by
  rcases Attempt.error_of_bind failed with uncounted | ⟨n, -, failed⟩
  · obtain ⟨line, entry⟩ := typed.processes
    rw [Builder.processCount, entry] at uncounted
    exact Count.kind_of_readProcesses uncounted
  · rcases Attempt.error_of_bind failed with unread | ⟨c, -, done⟩
    · exact Form.kind_of_config typed.form unread
    · cases done

theorem run_suggestGrid_of_bad {s : Session} {e : Failure} (failed : s.builder.entered = .error e)
    (bad : e.kind = .badValue) :
    suggestGrid.run s = .ok ⟨⟩ (s.onBuilder (·.reporting (warning e.message))) := by
  rw [suggestGrid, Step.run_bind_of_ok (Step.run_get s), failed,
    Step.run_bind_of_ok (Step.run_orElse_of_bad s bad _ (run_reportInBuilder e s))]
  rfl

/-- **A grid that is suggested.** Over a form and a number of processes that can be read, the form
    is laid out for that number. If one of them cannot be read, that is said in the line of status,
    and nothing else happens. -/
theorem suggestGrid_laysOut (s : Session) :
    (∀ c n, s.builder.form.config = .ok c → (∀ f, (c.get f).InReals) →
      s.builder.processCount = .ok n → (Binary64.ofInt n).isFinite = true →
        ∃ d t, suggestGrid.run s = .ok ⟨⟩ t ∧ LaysOut c d n s t) ∧
    (s.builder.IsTyped → ∀ e, s.builder.entered = .error e →
      suggestGrid.run s = .ok ⟨⟩ (s.onBuilder (·.reporting (warning e.message)))) := by
  refine ⟨fun c n holds inside counted finite => ?_, fun typed e failed => ?_⟩
  · obtain ⟨line, -, read⟩ := Attempt.exists_of_bind counted
    have positive := Count.one_le_of_readProcesses read
    have countable := Count.length_of_readProcesses read
    obtain ⟨p, q, rows, columns, rfl, grid⟩ := exists_laidOut positive c
    obtain ⟨rows, columns⟩ := isLength_of_mul rows columns finite
    obtain ⟨u, form, count, ran⟩ := run_suggestGrid_of_ok counted holds rows columns grid
    have presentable := presentable_of_inReals inside
    obtain ⟨found, checked⟩ := exists_problems_of_config holds presentable.within
      (.inr ⟨_, _, rfl, shown_int countable⟩)
    have laidOut := config_withGrid rows columns holds
    rw [← form] at laidOut
    obtain ⟨output, written⟩ := exists_write_of_config laidOut fun f => by
      rw [c.single_withGrid]
      exact presentable.shown f
    have after := problems_withGrid rows columns checked
    have refreshed := refreshBuilder_eq laidOut written
    rw [count] at refreshed
    simp only [Attempt.unlessBadValue, bind, Except.bind, countValue, after] at refreshed
    obtain ⟨t, ended, sameForm, sameOutput⟩ : ∃ t, suggestGrid.run s = .ok ⟨⟩ t ∧
        t.builder.form = u.builder.form ∧ t.builder.output = output := by
      rw [ran, Step.run_bind_of_ok refreshed, Numeral.writeInt_eq_ok _ countable,
        Step.run_bind_of_ok (Step.run_ofAttempt_ok _ _)]
      exact ⟨_, run_setBuilderStatus _ _, rfl, rfl⟩
    refine ⟨c.withGrid p q, t, ended, grid, ?_, ?_, fun f => c.get_withGrid_of_ne p q,
      fun slot apart other => ?_, found, checked, after⟩
    · rw [sameForm, laidOut]
    · rw [sameOutput, written]
    · rw [sameForm, form, entry_withGrid_of_ne apart other]
  · exact run_suggestGrid_of_bad failed (kind_of_entered typed failed)

/-! ### A form with grids that are not paired -/

theorem inReals_of_isQuantity {v : Value} (quantity : IsQuantity v) : v.InReals := by
  cases v with
  | int i => exact .int quantity
  | real x => exact .real x
  | _ => exact absurd quantity id

section

variable {c : Config}

/-- What the form takes is within the reals. -/
theorem Takes.inReals (takes : Takes c) (f : Field) : (c.get f).InReals := by
  cases f with
  | multi f => exact .list fun v member => inReals_of_isQuantity (takes.quantities f v member)
  | single f =>
      by_cases name : f = .outFile
      · rw [name]
        rcases takes.outFile with missing | ⟨w, -, named⟩
        · rw [Config.get, Config.single, missing]
          exact .null
        · rw [Config.get, Config.single, named]
          exact .text w
      · exact inReals_of_isQuantity (takes.single f name)

theorem isTyped_acceptAll (form : Form) : (form.acceptAll (offers c) Slot.all).IsTyped := by
  intro slot other
  have entry := form.entry_acceptAll (offers c) Slot.nodup_all slot
  rw [if_pos slot.mem_all] at entry
  cases slot with
  | coded f => exact absurd rfl (other f)
  | _ => exact ⟨_, entry.trans (replacedBy_text_eq _ _)⟩

end

/-- More P than Q, one of them a real, and a size that is not positive. -/
def ragged : Config where
  outFile := .null
  ns := [.int 0]
  ps := [.int 2, .int 3, .real (Binary64.ofInt 4)]
  qs := [.int 2, .int 300]

theorem takes_ragged : Takes ragged where
  outFile := .inl rfl
  coded f := by cases f <;> exact ⟨_, by decide, rfl⟩
  amount f := by cases f <;> decide +kernel
  nonempty f := by cases f <;> simp [ragged, Config.multi]
  quantities f := by
    have each : ∀ f ∈ multis, ∀ v ∈ ragged.multi f, IsQuantity v := by decide +kernel
    exact each f (mem_multis f)

/-- A form that was filled with it. -/
def raggedForm : Form := Form.acceptAll {} (offers ragged) Slot.all

theorem config_raggedForm : raggedForm.config = .ok ragged := by
  rw [raggedForm]
  exact takes_ragged.config_acceptAll fun f => by cases f <;> exact ⟨_, rfl⟩

theorem isTyped_raggedForm : raggedForm.IsTyped := by
  rw [raggedForm]
  exact isTyped_acceptAll {}

def raggedOn (processes : Text) : Session where
  settings := {}
  converter := { delay := .zero }
  builder := { processes := .text processes, memory := .text "16", form := raggedForm }

theorem form_raggedOn (processes : Text) : (raggedOn processes).builder.form = raggedForm := by
  dsimp only [raggedOn]

theorem isTyped_raggedOn (processes : Text) : (raggedOn processes).builder.IsTyped := by
  refine ⟨⟨processes, rfl⟩, ⟨"16", rfl⟩, ?_⟩
  rw [form_raggedOn]
  exact isTyped_raggedForm

theorem suggestGrid_laysOut_ragged :
    (raggedOn "12").builder.form.config = .ok ragged ∧ (∀ f, (ragged.get f).InReals) ∧
      (raggedOn "12").builder.processCount = .ok 12 ∧ (Binary64.ofInt 12).isFinite = true ∧
      (∃ d t, suggestGrid.run (raggedOn "12") = .ok ⟨⟩ t ∧ LaysOut ragged d 12 (raggedOn "12") t) ∧
      (raggedOn "0").builder.IsTyped ∧
      (raggedOn "0").builder.entered = .error .zeroProcessCount ∧
      suggestGrid.run (raggedOn "0") = .ok ⟨⟩ ((raggedOn "0").onBuilder
        (·.reporting (warning Failure.zeroProcessCount.message))) := by
  have counted : (raggedOn "12").builder.processCount = .ok 12 := by decide +kernel
  have refused : (raggedOn "0").builder.processCount = .error .zeroProcessCount := by
    decide +kernel
  have failed : (raggedOn "0").builder.entered = .error .zeroProcessCount := by
    rw [Builder.entered, refused]
    rfl
  have finite : (Binary64.ofInt 12).isFinite = true := by decide +kernel
  have typed := isTyped_raggedOn "0"
  have holds : (raggedOn "12").builder.form.config = .ok ragged := by
    rw [form_raggedOn, config_raggedForm]
  have inside := takes_ragged.inReals
  have laysOut := (suggestGrid_laysOut (raggedOn "12")).1 ragged 12 holds inside counted finite
  have reports := (suggestGrid_laysOut (raggedOn "0")).2 typed _ failed
  exact ⟨holds, inside, counted, finite, laysOut, typed, failed, reports⟩

end Editor

end ClusterPrep
