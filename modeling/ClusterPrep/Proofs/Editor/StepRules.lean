import ClusterPrep.Editor.Session

set_option autoImplicit false

/-
  Rules for steps that do not fail: from where a step starts to where it ends, one rule for each way
  in which steps are put together.
-/
namespace ClusterPrep.Editor

/-- A step that goes on from another one does so from where that one ended. -/
theorem Step.exists_of_run_bind {α β : Type} {x : Step α} {f : α → Step β} {s t : Session} {b : β}
    (done : (x >>= f).run s = .ok b t) :
    ∃ a u, x.run s = .ok a u ∧ (f a).run u = .ok b t := by
  rw [Step.run_bind] at done
  cases ran : x.run s with
  | error e u =>
      rw [ran] at done
      cases done
  | ok a u =>
      rw [ran] at done
      exact ⟨a, u, rfl, done⟩

/-- The session in which a step ends, unless it fails. -/
def Step.ended? (step : Step Unit) (s : Session) : Option Session :=
  match step.run s with
  | .ok _ t => some t
  | .error _ _ => none

/-- The session in which a step fails. -/
def Step.failed? (step : Step Unit) (s : Session) : Option Session :=
  match step.run s with
  | .ok _ _ => none
  | .error _ t => some t

theorem Step.run_of_ended? {step : Step Unit} {s t : Session} (found : step.ended? s = some t) :
    step.run s = .ok ⟨⟩ t := by
  rw [ended?] at found
  cases ran : step.run s with
  | ok a u =>
      rw [ran] at found
      cases found
      rfl
  | error e u =>
      rw [ran] at found
      cases found

theorem Step.exists_of_failed? {step : Step Unit} {s t : Session}
    (found : step.failed? s = some t) : ∃ e, step.run s = .error e t := by
  rw [failed?] at found
  cases ran : step.run s with
  | ok a u =>
      rw [ran] at found
      cases found
  | error e u =>
      rw [ran] at found
      cases found
      exact ⟨e, rfl⟩

/-- The step leads from sessions of one sort to sessions of another, unless it fails. -/
structure Leads {α : Type} (before after : Session → Prop) (step : Step α) : Prop where
  run : ∀ s, before s → ∀ a t, step.run s = .ok a t → after t

/-- The step keeps an invariant, unless it fails. -/
abbrev Keeps {α : Type} (inv : Session → Prop) (step : Step α) : Prop := Leads inv inv step

namespace Leads

variable {α β : Type} {before between after inv : Session → Prop}

theorem weaken {step : Step α} (leads : Leads between after step)
    (weaker : ∀ s, before s → between s) : Leads before after step :=
  ⟨fun s start => leads.run s (weaker s start)⟩

theorem pure (a : α) : Keeps inv (Pure.pure a : Step α) := by
  constructor
  intro s kept b t done
  cases done
  exact kept

theorem throw (e : Failure) : Leads before after (throw e : Step α) := by
  constructor
  intro s _ a t done
  cases done

theorem bind {x : Step α} {f : α → Step β} (first : Leads before between x)
    (second : ∀ a, Leads between after (f a)) : Leads before after (x >>= f) := by
  constructor
  intro s start b t done
  obtain ⟨a, u, ran, rest⟩ := Step.exists_of_run_bind done
  exact (second a).run u (first.run s start a u ran) b t rest

theorem throw_bind (e : Failure) (f : α → Step β) :
    Leads before after ((MonadExcept.throw e : Step α) >>= f) := by
  constructor
  intro s _ b t done
  cases done

/-- What is read is the session that the step is in. -/
theorem get_bind {f : Session → Step β}
    (each : ∀ s, before s → Leads (fun u => u = s) after (f s)) :
    Leads before after (get >>= f) := by
  constructor
  intro s start b t done
  rw [Step.run_bind_of_ok (Step.run_get s)] at done
  exact (each s start).run s rfl b t done

/-- A step that only looks at the session goes on as it would with any other. -/
theorem read {f : Session → Step β} (each : ∀ s, Leads before after (f s)) :
    Leads before after (get >>= f) := by
  apply get_bind
  intro s start
  apply (each s).weaken
  intro u same
  rwa [same]

theorem modify {f : Session → Session} (moves : ∀ s, before s → after (f s)) :
    Leads before after (modify f : Step PUnit) := by
  constructor
  intro s start a t done
  cases done
  exact moves s start

theorem set {u : Session} (reached : after u) : Leads before after (set u : Step PUnit) := by
  constructor
  intro s _ a t done
  cases done
  exact reached

theorem ofAttempt (x : Attempt α) : Keeps inv (Step.ofAttempt x) := by
  cases x with
  | ok a => exact pure a
  | error e => exact throw e

theorem orElse (x : Attempt α) {instead : Failure → Step Unit} (each : ∀ e, Keeps inv (instead e)) :
    Keeps inv (Step.orElse x instead) := by
  cases x with
  | ok a => exact pure (some a)
  | error e =>
      unfold Step.orElse
      dsimp only
      split
      · exact bind (each e) fun _ => pure none
      · exact throw e

theorem ite {c : Prop} [Decidable c] {x y : Step α} (yes : Leads before after x)
    (no : Leads before after y) : Leads before after (if c then x else y) := by
  split
  · exact yes
  · exact no

/-- A step for every item, where what is still due shrinks with the items. -/
theorem forM {items : List α} {f : α → Step PUnit} (due : List α → Session → Prop)
    (each : ∀ a rest, Leads (due (a :: rest)) (due rest) (f a)) :
    Leads (due items) (due []) (items.forM f) := by
  induction items with
  | nil => exact pure PUnit.unit
  | cons a items ih => exact bind (each a items) fun _ => ih

end Leads

end ClusterPrep.Editor
