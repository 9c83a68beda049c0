import ClusterPrep.Proofs.Editor.Filling
import ClusterPrep.Proofs.Editor.Ready
import ClusterPrep.Proofs.Preset.Loading

set_option autoImplicit false

/-
  When the builder can be refreshed. A form whose lines hold texts either has a place that is
  reported, or it holds a configuration; that one is written and checked, which comes to an end
  unless a code cannot be shown or a whole number is beyond the reals.
-/
namespace ClusterPrep

namespace Count

open Hpl

/-- A number that is typed in is one as files give them. -/
theorem isFigure_of_readNumber {w : Text} {n : Number} (read : readNumber w = .ok n) :
    IsFigure (.ofNumber n) := by
  rw [readNumber] at read
  split at read
  · rename_i i whole
    cases read
    exact Numeral.length_ofNat_of_readInt whole
  · split at read
    · cases read
      trivial
    · cases read

theorem isFigure_of_readNumbers {ws : List Text} {ns : List Number}
    (read : readNumbers ws = .ok ns) : ∀ n ∈ ns, IsFigure (.ofNumber n) := by
  induction ws generalizing ns with
  | nil =>
      cases read
      simp
  | cons w ws ih =>
      obtain ⟨n, first, read⟩ := Attempt.exists_of_bind read
      obtain ⟨rest, others, read⟩ := Attempt.exists_of_bind read
      cases read
      exact List.forall_mem_cons.mpr ⟨isFigure_of_readNumber first, ih others⟩

theorem isFigure_of_readList {s : Text} {ns : List Number} (read : readList s = .ok ns) :
    ∀ n ∈ ns, IsFigure (.ofNumber n) := by
  rw [readList] at read
  split at read
  · cases read
  · exact isFigure_of_readNumbers read

end Count

/-! ### Configurations that can be written -/

namespace Hpl

variable {c : Config}

theorem exists_singleText (name : c.outFile = .null ∨ ∃ s, c.outFile = .text s)
    (shown : ∀ f, f ≠ .outFile → ∃ s, (c.single f).shown = .ok s) (f : Single) :
    ∃ s, singleText c f = .ok s := by
  rw [singleText]
  split
  · rw [outFileText]
    rcases name with missing | ⟨s, named⟩
    · rw [missing]
      exact ⟨_, rfl⟩
    · rw [named]
      split <;> exact ⟨_, rfl⟩
  · rename_i other
    split
    · exact ⟨_, shown_of_hasWord (hasWord_default other)⟩
    · exact shown f other

/-- A configuration is written if its values can be shown, with a name or none for the output
    file. -/
theorem exists_write (name : c.outFile = .null ∨ ∃ s, c.outFile = .text s)
    (single : ∀ f, f ≠ .outFile → ∃ s, (c.single f).shown = .ok s)
    (multi : ∀ f, ∃ s, Value.shownAll (c.multi f) = .ok s) : ∃ output, write c = .ok output := by
  have each : ∀ e ∈ schema, ∃ ls, entryLines c e = .ok ls := by
    intro e _
    cases e with
    | single f label =>
        obtain ⟨s, shown⟩ := exists_singleText name single f
        exact ⟨_, by rw [entryLines, shown]; rfl⟩
    | multi f countLabel valuesLabel =>
        obtain ⟨s, shown⟩ := multi f
        exact ⟨_, by rw [entryLines, shown]; rfl⟩
    | grids countLabel psLabel qsLabel =>
        obtain ⟨ps, rows⟩ := multi .ps
        obtain ⟨qs, columns⟩ := multi .qs
        have rows : Value.shownAll c.ps = .ok ps := rows
        have columns : Value.shownAll c.qs = .ok qs := columns
        exact ⟨_, by rw [entryLines, rows, columns]; rfl⟩
  obtain ⟨ls, lines⟩ := Attempt.exists_mapM_eq_ok each
  exact ⟨_, by rw [write, lines]; rfl⟩

theorem exists_single_mem_schema (f : Single) : ∃ label, Entry.single f label ∈ schema := by
  cases f <;> simp [schema]

/-- What was written could be shown. -/
theorem exists_shown_of_write {output : Text} (written : write c = .ok output) {f : Single}
    (other : f ≠ .outFile) (present : c.single f ≠ .null) : ∃ s, (c.single f).shown = .ok s := by
  obtain ⟨lines, all, -⟩ := Attempt.exists_of_bind written
  obtain ⟨label, place⟩ := exists_single_mem_schema f
  obtain ⟨ls, -, made⟩ := Attempt.exists_of_mapM all place
  obtain ⟨s, text, -⟩ := Attempt.exists_of_bind made
  rw [singleText, if_neg other] at text
  split at text
  · rename_i missing
    exact absurd missing present
  · exact ⟨s, text⟩

/-- A number as files give them is one that can be computed with if it is within the reals. -/
theorem isQuantity_of_isFigure {v : Value} (figure : IsFigure v) (within : Within v) :
    IsQuantity v := by
  cases v with
  | int i => exact within
  | real x => trivial
  | _ => exact absurd figure id

end Hpl

namespace Editor

open Hpl

/-! ### What stands in a form whose lines hold texts -/

/-- Every line of the form holds a text; the codes may be anything. -/
def Form.IsTyped (form : Form) : Prop :=
  ∀ slot, (∀ f, slot ≠ .coded f) → ∃ s, form.entry slot = .text s

namespace Form

variable {form : Form}

theorem kind_of_numbers {label : String} {s : Text} {e : Failure}
    (failed : numbers label s = .error e) : e.kind = .badValue := by
  rw [numbers] at failed
  split at failed
  · cases failed
  · cases failed
    rfl

theorem isFigure_of_numbers {label : String} {s : Text} {ns : List Number}
    (read : numbers label s = .ok ns) : ∀ n ∈ ns, IsFigure (.ofNumber n) := by
  rw [numbers] at read
  split at read
  · rename_i found
    cases read
    exact Count.isFigure_of_readList found
  · cases read

/-- A place of such a form that has no value is reported. -/
theorem kind_of_value (typed : form.IsTyped) {slot : Slot} {e : Failure}
    (failed : form.value slot = .error e) : e.kind = .badValue := by
  cases slot with
  | outFile =>
      obtain ⟨s, entry⟩ := typed .outFile (by simp)
      rw [value, entry] at failed
      cases failed
  | coded f =>
      rw [value] at failed
      split at failed
      · cases failed
        rfl
      · cases failed
  | amount f =>
      obtain ⟨s, entry⟩ := typed (.amount f) (by simp)
      rw [value, entry] at failed
      rcases Attempt.error_of_bind failed with untyped | ⟨t, -, failed⟩
      · cases untyped
      rcases Attempt.error_of_bind failed with unread | ⟨ns, -, failed⟩
      · exact kind_of_numbers unread
      · split at failed
        · cases failed
        · cases failed
          rfl
  | list f =>
      obtain ⟨s, entry⟩ := typed (.list f) (by simp)
      rw [value, entry] at failed
      rcases Attempt.error_of_bind failed with untyped | ⟨t, -, failed⟩
      · cases untyped
      rcases Attempt.error_of_bind failed with unread | ⟨ns, -, done⟩
      · exact kind_of_numbers unread
      · cases done

theorem kind_of_config (typed : form.IsTyped) {e : Failure} (failed : form.config = .error e) :
    e.kind = .badValue := by
  obtain ⟨slot, -, c, stopped⟩ := Attempt.foldlM_eq_error failed
  rcases Attempt.error_of_bind stopped with unread | ⟨v, -, done⟩
  · exact kind_of_value typed unread
  · cases done

section

variable {c : Config} (holds : form.config = .ok c)
include holds

theorem isFigure_of_config (f : Amount) : IsFigure (c.single f.single) := by
  obtain ⟨v, value, held⟩ := value_of_config holds (.amount f)
  have held : c.single f.single = v := held
  obtain ⟨s, -, value⟩ := Attempt.exists_of_bind value
  obtain ⟨ns, read, value⟩ := Attempt.exists_of_bind value
  rw [held]
  split at value
  · rename_i n
    cases value
    exact isFigure_of_numbers read n (by simp)
  · cases value

theorem isFigure_of_mem_config (f : Multi) : ∀ v ∈ c.multi f, IsFigure v := by
  obtain ⟨v, value, held⟩ := value_of_config holds (.list f)
  obtain ⟨s, -, value⟩ := Attempt.exists_of_bind value
  obtain ⟨ns, read, value⟩ := Attempt.exists_of_bind value
  cases value
  have held : c.multi f = ns.map Value.ofNumber := Value.list.inj held
  intro w member
  rw [held] at member
  obtain ⟨n, inside, rfl⟩ := List.mem_map.mp member
  exact isFigure_of_numbers read n inside

theorem exists_shownAll_of_config (f : Multi) : ∃ s, Value.shownAll (c.multi f) = .ok s := by
  obtain ⟨ss, shown⟩ := Attempt.exists_mapM_eq_ok fun v member =>
    ⟨_, shown_of_hasWord (isFigure_of_mem_config holds f v member).hasWord⟩
  exact ⟨_, by rw [Value.shownAll, shown]; rfl⟩

end

end Form

/-! ### Refreshes that come to an end -/

/-- A configuration without whole numbers beyond the reals, whose codes can be shown. -/
structure Presentable (c : Config) : Prop where
  within : c.Within
  shown : ∀ f : Coded, ∃ s, (c.single f.single).shown = .ok s

theorem single_ne_outFile (f : Coded) : f.single ≠ .outFile := by
  cases f <;> decide

section

variable {form : Form} {c : Config} (holds : form.config = .ok c)
include holds

theorem exists_write_of_config (shown : ∀ f : Coded, ∃ s, (c.single f.single).shown = .ok s) :
    ∃ output, Hpl.write c = .ok output := by
  refine exists_write ((Form.outFile_of_config holds).imp_right ?_) (fun f other => ?_)
    (Form.exists_shownAll_of_config holds)
  · rintro ⟨w, -, named⟩
    exact ⟨w, named⟩
  · rcases exists_coded_or_amount other with ⟨g, rfl⟩ | ⟨g, rfl⟩
    · exact shown g
    · exact ⟨_, shown_of_hasWord (Form.isFigure_of_config holds g).hasWord⟩

theorem exists_problems_of_config (within : c.Within) {available : Value}
    (countable : available = .null ∨ ∃ k s, available = .int k ∧ available.shown = .ok s) :
    ∃ found, Hpl.problems c available = .ok found := by
  have quantities : ∀ f, ∀ v ∈ c.multi f, IsQuantity v := fun f v member =>
    isQuantity_of_isFigure (Form.isFigure_of_mem_config holds f v member)
      (within.multi f v member)
  refine exists_problems (fun f v member => (quantities f v member).exists_isNumber)
    (fun f v member => (quantities f v member).exists_literal)
    (fun f other => exists_isNumber_iff.mpr (within.single f other)) ?_
  rcases countable with missing | ⟨k, s, rfl, shown⟩
  · exact Or.inl missing
  · exact Or.inr (exists_gridsProblems quantities ⟨s, shown⟩)

end

theorem exists_text_of_processCount {p : Builder} {count : Option Int}
    (counted : p.processCount.unlessBadValue = .ok count) : ∃ line, p.processes = .text line := by
  rw [Builder.processCount] at counted
  cases held : p.processes with
  | text line => exact ⟨line, rfl⟩
  | _ =>
      rw [held] at counted
      cases counted

/-- **When a refresh of the builder succeeds.** Where the form holds no configuration, its bad place
    is reported. A configuration is written and checked to the end exactly if its codes can be
    shown, no whole number in it is beyond the reals and a text stands in the line of processes. -/
theorem exists_refreshBuilder_iff {s : Session} (typed : s.builder.form.IsTyped) :
    (∃ t, refreshBuilder.run s = .ok ⟨⟩ t) ↔
      ∀ c, s.builder.form.config = .ok c →
        Presentable c ∧ ∃ line, s.builder.processes = .text line := by
  cases held : s.builder.form.config with
  | error e =>
      have bad := Form.kind_of_config typed held
      exact iff_of_true ⟨_, refreshBuilder_of_bad held bad⟩ (by simp)
  | ok c =>
      simp only [Except.ok.injEq, forall_eq']
      constructor
      · rintro ⟨t, done⟩
        cases written : Hpl.write c with
        | error e =>
            rw [refreshBuilder_of_unwritten held written] at done
            cases done
        | ok output =>
            rw [refreshBuilder_eq held written] at done
            split at done
            · cases done
            · rename_i problems checked
              obtain ⟨count, counted, checked⟩ := Attempt.exists_of_bind checked
              obtain ⟨multi, single⟩ := isNumber_of_problems checked
              refine ⟨⟨⟨fun f other => ?_, fun f v member => ?_⟩, fun f => ?_⟩,
                exists_text_of_processCount counted⟩
              · exact exists_isNumber_iff.mp (single f other)
              · exact exists_isNumber_iff.mp (multi f v member)
              · exact exists_shown_of_write written (single_ne_outFile f)
                  (Form.single_of_config held (single_ne_outFile f))
      · rintro ⟨presentable, line, entered⟩
        obtain ⟨output, written⟩ := exists_write_of_config held presentable.shown
        obtain ⟨count, counted, countable⟩ := exists_count entered
        obtain ⟨problems, checked⟩ :=
          exists_problems_of_config held presentable.within countable
        rw [refreshBuilder_eq held written, counted]
        simp only [bind, Except.bind, checked]
        exact ⟨_, rfl⟩

end Editor

end ClusterPrep
