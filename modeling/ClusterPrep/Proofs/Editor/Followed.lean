import ClusterPrep.Editor.Event
import ClusterPrep.Proofs.Editor.OneTimer
import ClusterPrep.Proofs.Editor.Refresh
import ClusterPrep.Proofs.Editor.StepRules

set_option autoImplicit false

/-
  No edit is lost. Within a step, the preview of a panel is that of what the user has entered, or a
  timer for the panel is pending, or an edit is noted that will start one, or the panel is among
  those that are still due a refresh. Everything that the editor does keeps this.
-/
namespace ClusterPrep.Editor

/-- The panel whose preview follows on an edit. -/
def Change.panel? : Change → Option Panel
  | .script => some .converter
  | .processes | .form => some .builder
  | .presetName => none

/-- A timer for the panel is pending. -/
def Pending (s : Session) (panel : Panel) : Prop := ∃ t ∈ s.timers, t.panel = panel

/-- An edit in the panel is noted. -/
def Noted (s : Session) (panel : Panel) : Prop := ∃ c ∈ s.changes, c.panel? = some panel

/-- The converter shows what its script is converted to. -/
def Converter.IsFresh (p : Converter) : Prop :=
  p.output = Batch.convert p.script ∧
    p.preview = if p.output.isEmpty then none else some (Display.script p.output)

/-- The builder shows what its form is written as, or its form holds no configuration. -/
def Builder.IsFresh (p : Builder) : Prop :=
  (∃ e, p.form.config = .error e ∧ e.kind = .badValue) ∨
    ∃ c, p.form.config = .ok c ∧ Hpl.write c = .ok p.output ∧ p.preview = some p.output

/-- The panel shows what the user has entered in it. -/
def Fresh (s : Session) : Panel → Prop
  | .converter => s.converter.IsFresh
  | .builder => s.builder.IsFresh

/-- The panels keep track of their timers, and every panel is fresh or will be refreshed. -/
structure Followed (due : List Panel) (s : Session) : Prop where
  tracked : s.timing.Tracked
  each : ∀ panel, panel ∈ due ∨ Pending s panel ∨ Noted s panel ∨ Fresh s panel

namespace Followed

variable {due : List Panel} {s t : Session}

/-- A refresh that is not due may be due. -/
theorem owe (followed : Followed due s) (panel : Panel) : Followed (panel :: due) s :=
  ⟨followed.tracked, fun other => (followed.each other).imp_left (List.mem_cons_of_mem panel)⟩

/-- What is neither a panel nor a timer nor an edit may change. -/
theorem congr (followed : Followed due s) (converter : t.converter = s.converter)
    (builder : t.builder = s.builder) (timing : t.timing = s.timing)
    (changes : t.changes = s.changes) : Followed due t := by
  have fresh (panel : Panel) : Fresh t panel ↔ Fresh s panel := by
    cases panel
    · rw [Fresh, Fresh, converter]
    · rw [Fresh, Fresh, builder]
  refine ⟨by rw [timing]; exact followed.tracked, fun panel => ?_⟩
  rw [Pending, Noted, Session.timers, timing, changes, fresh]
  exact followed.each panel

/-- A change to a panel that leaves it fresh if it was so, or that is due to be followed. -/
theorem onConverter (followed : Followed due s) {f : Converter → Converter}
    (kept : s.converter.IsFresh → (f s.converter).IsFresh) : Followed due (s.onConverter f) := by
  refine ⟨followed.tracked, fun panel => ?_⟩
  rcases followed.each panel with inside | pending | noted | fresh
  · exact Or.inl inside
  · exact Or.inr (Or.inl pending)
  · exact Or.inr (Or.inr (Or.inl noted))
  · refine Or.inr (Or.inr (Or.inr ?_))
    cases panel
    · exact kept fresh
    · exact fresh

theorem onBuilder (followed : Followed due s) {f : Builder → Builder}
    (kept : s.builder.IsFresh → (f s.builder).IsFresh) : Followed due (s.onBuilder f) := by
  refine ⟨followed.tracked, fun panel => ?_⟩
  rcases followed.each panel with inside | pending | noted | fresh
  · exact Or.inl inside
  · exact Or.inr (Or.inl pending)
  · exact Or.inr (Or.inr (Or.inl noted))
  · refine Or.inr (Or.inr (Or.inr ?_))
    cases panel
    · exact fresh
    · exact kept fresh

/-- A panel that became fresh, or awaits a refresh in another way, is no longer due one. -/
theorem settle {panel : Panel} (followed : Followed (panel :: due) s)
    (answered : Pending s panel ∨ Noted s panel ∨ Fresh s panel) : Followed due s := by
  refine ⟨followed.tracked, fun other => ?_⟩
  rcases followed.each other with inside | awaits
  · rcases List.mem_cons.mp inside with rfl | inside
    · exact Or.inr answered
    · exact Or.inl inside
  · exact Or.inr awaits

/-- Any change to a panel makes a refresh of it due. -/
theorem changed {panel : Panel} (followed : Followed due s) (timing : t.timing = s.timing)
    (changes : t.changes = s.changes)
    (others : ∀ other, other ≠ panel → Fresh s other → Fresh t other) :
    Followed (panel :: due) t := by
  refine ⟨by rw [timing]; exact followed.tracked, fun other => ?_⟩
  by_cases same : other = panel
  · exact Or.inl (by simp [same])
  · rcases followed.each other with inside | pending | noted | fresh
    · exact Or.inl (List.mem_cons_of_mem panel inside)
    · exact Or.inr (Or.inl (by rwa [Pending, Session.timers, timing]))
    · exact Or.inr (Or.inr (Or.inl (by rwa [Noted, changes])))
    · exact Or.inr (Or.inr (Or.inr (others other same fresh)))

end Followed

variable {due : List Panel}

/-! ### Timers and edits -/

theorem leads_schedule (panel : Panel) :
    Leads (Followed (panel :: due)) (Followed due) (modify (·.schedule panel)) := by
  apply Leads.modify
  intro s followed
  obtain ⟨delay, timing⟩ : ∃ delay, (s.schedule panel).timing = s.timing.restart panel delay :=
    ⟨_, rfl⟩
  have timers : (s.schedule panel).timers =
      s.timers.filter (·.panel ≠ panel) ++ [⟨panel, delay, s.timing.next⟩] := by
    rw [Session.timers, timing]
    exact followed.tracked.pending_restart panel delay
  have scheduled : Pending (s.schedule panel) panel :=
    ⟨⟨panel, delay, s.timing.next⟩, by simp [timers], rfl⟩
  have more : Followed (panel :: due) (s.schedule panel) := by
    constructor
    · rw [timing]
      exact followed.tracked.restart panel delay
    · intro other
      by_cases same : other = panel
      · exact Or.inl (by simp [same])
      · rcases followed.each other with inside | ⟨t, member, pending⟩ | noted | fresh
        · exact Or.inl inside
        · refine Or.inr (Or.inl ⟨t, ?_, pending⟩)
          rw [timers]
          exact List.mem_append_left _ (List.mem_filter.mpr ⟨member, by simp [pending, same]⟩)
        · exact Or.inr (Or.inr (Or.inl noted))
        · exact Or.inr (Or.inr (Or.inr (by cases other <;> exact fresh)))
  exact more.settle (Or.inl scheduled)

theorem keeps_noteChange (c : Change) : Keeps (Followed due) (noteChange c) := by
  refine Leads.modify fun s followed => ⟨followed.tracked, fun other => ?_⟩
  rcases followed.each other with inside | pending | ⟨d, member, same⟩ | fresh
  · exact Or.inl inside
  · exact Or.inr (Or.inl pending)
  · exact Or.inr (Or.inr (Or.inl ⟨d, List.mem_append_left _ member, same⟩))
  · exact Or.inr (Or.inr (Or.inr (by cases other <;> exact fresh)))

/-- An edit that is noted will be followed by a refresh. -/
theorem leads_noteChange {c : Change} {panel : Panel} (after : c.panel? = some panel) :
    Leads (Followed (panel :: due)) (Followed due) (noteChange c) := by
  constructor
  intro s followed a t done
  have more := (keeps_noteChange c).run s followed a t done
  cases done
  exact more.settle (Or.inr (Or.inl ⟨c, by simp, after⟩))

/-! ### Panels and dialogs -/

theorem keeps_setConverter {f : Converter → Converter} (kept : ∀ p, p.IsFresh → (f p).IsFresh) :
    Keeps (Followed due) (setConverter f) :=
  Leads.modify fun _ followed => followed.onConverter (kept _)

theorem keeps_setBuilder {f : Builder → Builder} (kept : ∀ p, p.IsFresh → (f p).IsFresh) :
    Keeps (Followed due) (setBuilder f) :=
  Leads.modify fun _ followed => followed.onBuilder (kept _)

theorem keeps_setConverterStatus (message : Text) :
    Keeps (Followed due) (setConverterStatus message) :=
  keeps_setConverter fun _ fresh => fresh

theorem keeps_setBuilderStatus (message : Text) :
    Keeps (Followed due) (setBuilderStatus message) :=
  keeps_setBuilder fun _ fresh => fresh

theorem keeps_openDialog (d : Dialog) : Keeps (Followed due) (openDialog d) :=
  Leads.modify fun _ followed => followed.congr rfl rfl rfl rfl

theorem keeps_closeDialog : Keeps (Followed due) closeDialog :=
  Leads.modify fun _ followed => followed.congr rfl rfl rfl rfl

theorem keeps_setDialog (d : Dialog) : Keeps (Followed due) (setDialog d) :=
  Leads.modify fun _ followed => followed.congr rfl rfl rfl rfl

/-! ### Refreshes -/

theorem Converter.isFresh_converted (p : Converter) : p.converted.IsFresh := ⟨rfl, rfl⟩

/-- A refresh of the converter makes it fresh. -/
theorem leads_refreshConverter :
    Leads (Followed (.converter :: due)) (Followed due) refreshConverter := by
  constructor
  intro s followed a t done
  obtain ⟨status, rfl⟩ := refreshConverter_cases done
  have more : Followed (.converter :: due)
      (s.onConverter fun p => { p.converted with status }) := by
    refine followed.onConverter fun _ => ?_
    exact s.converter.isFresh_converted
  exact more.settle (Or.inr (Or.inr s.converter.isFresh_converted))

/-- A refresh of the builder makes it fresh, if only by the report that its form holds no
    configuration. -/
theorem leads_refreshBuilder :
    Leads (Followed (.builder :: due)) (Followed due) refreshBuilder := by
  constructor
  intro s followed a t done
  rcases refreshBuilder_cases done with
    ⟨e, failed, bad, rfl⟩ | ⟨c, output, message, holds, written, rfl⟩
  · have more := followed.onBuilder (f := (·.reporting (warning e.message))) id
    exact more.settle (Or.inr (Or.inr (Or.inl ⟨e, failed, bad⟩)))
  · have fresh : (s.builder.showing output).IsFresh := Or.inr ⟨c, holds, written, rfl⟩
    have more := followed.onBuilder
      (f := fun p => (p.showing output).reporting message) fun _ => fresh
    exact more.settle (Or.inr (Or.inr fresh))

theorem leads_refresh (panel : Panel) :
    Leads (Followed (panel :: due)) (Followed due) (refresh panel) := by
  cases panel with
  | converter => exact leads_refreshConverter
  | builder => exact leads_refreshBuilder

theorem keeps_refreshConverter : Keeps (Followed due) refreshConverter :=
  leads_refreshConverter.weaken fun _ followed => followed.owe .converter

theorem keeps_refreshBuilder : Keeps (Followed due) refreshBuilder :=
  leads_refreshBuilder.weaken fun _ followed => followed.owe .builder

theorem keeps_refreshNearby : Keeps (Followed due) refreshNearby := by
  unfold refreshNearby
  apply Leads.read
  intro s
  apply Leads.bind (Leads.ofAttempt _)
  intro count
  exact keeps_setBuilder fun p fresh => fresh

/-! ### What follows on edits, and the passing of time -/

/-- What follows on an edit awaits the refresh of the panel that was edited. -/
theorem leads_follow (c : Change) :
    Leads (Followed (c.panel?.toList ++ due)) (Followed due) (follow c) := by
  cases c with
  | script => exact leads_schedule .converter
  | processes => exact Leads.bind keeps_refreshNearby fun _ => leads_schedule .builder
  | form => exact leads_schedule .builder
  | presetName =>
      apply Leads.read
      intro s
      split
      · exact Leads.bind (Leads.ofAttempt _) fun _ => keeps_setDialog _
      · exact Leads.pure _

theorem keeps_settle : Keeps (Followed due) settle := by
  apply Leads.get_bind
  intro s followed
  have noted : Followed (s.changes.filterMap Change.panel? ++ due) { s with changes := [] } := by
    refine ⟨followed.tracked, fun panel => ?_⟩
    rcases followed.each panel with inside | pending | ⟨c, member, same⟩ | fresh
    · exact Or.inl (List.mem_append_right _ inside)
    · exact Or.inr (Or.inl pending)
    · exact Or.inl (List.mem_append_left _ (List.mem_filterMap.mpr ⟨c, member, same⟩))
    · exact Or.inr (Or.inr (Or.inr (by cases panel <;> exact fresh)))
  have cleared : Leads (fun u => u = s) (Followed (s.changes.filterMap Change.panel? ++ due))
      (modify fun s => { s with changes := [] }) := by
    apply Leads.modify
    intro u same
    subst same
    exact noted
  apply Leads.bind cleared
  intro _
  refine Leads.forM (fun rest => Followed (rest.filterMap Change.panel? ++ due)) fun c rest => ?_
  have step := @leads_follow (rest.filterMap Change.panel? ++ due) c
  rw [List.filterMap_cons]
  cases panel : c.panel? with
  | none =>
      rw [panel] at step
      exact step
  | some p =>
      rw [panel] at step
      exact step

theorem keeps_passTime : Keeps (Followed due) passTime := by
  apply Leads.get_bind
  intro s followed
  have taken : Followed (s.timers.map Timer.panel ++ due)
      { s with timing := s.timing.elapse } := by
    refine ⟨followed.tracked.elapse, fun panel => ?_⟩
    rcases followed.each panel with inside | ⟨t, member, same⟩ | noted | fresh
    · exact Or.inl (List.mem_append_right _ inside)
    · exact Or.inl (List.mem_append_left _ (List.mem_map.mpr ⟨t, member, same⟩))
    · exact Or.inr (Or.inr (Or.inl noted))
    · exact Or.inr (Or.inr (Or.inr (by cases panel <;> exact fresh)))
  have emptied : Leads (fun u => u = s) (Followed (s.timers.map Timer.panel ++ due))
      (modify fun s => { s with timing := s.timing.elapse }) := by
    apply Leads.modify
    intro u same
    subst same
    exact taken
  apply Leads.bind emptied
  intro _
  exact Leads.forM (fun rest => Followed (rest.map Timer.panel ++ due))
    fun t rest => leads_refresh t.panel

end ClusterPrep.Editor
