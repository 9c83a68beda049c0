import ClusterPrep.Failure
import Mathlib.Data.List.Forall2

set_option autoImplicit false

/-
  Attempts that succeed one after the other.
-/
namespace ClusterPrep.Attempt

theorem ok_bind {ε α β : Type} (a : α) (f : α → Except ε β) : (Except.ok a >>= f) = f a := rfl

/-- What goes on from a result goes on from the result of the first part. -/
theorem exists_of_bind {ε α β : Type} {x : Except ε α} {f : α → Except ε β} {b : β}
    (done : (x >>= f) = .ok b) : ∃ a, x = .ok a ∧ f a = .ok b := by
  cases x with
  | error e => cases done
  | ok a => exact ⟨a, rfl, done⟩

/-- What goes on from an attempt fails at the attempt or after it. -/
theorem error_of_bind {ε α β : Type} {x : Except ε α} {f : α → Except ε β} {e : ε}
    (failed : (x >>= f) = .error e) : x = .error e ∨ ∃ a, x = .ok a ∧ f a = .error e := by
  cases x with
  | error e' => exact .inl (by cases failed; rfl)
  | ok a => exact .inr ⟨a, rfl, failed⟩

/-- What goes on from a result, whichever it is, succeeds with the attempt if that does and what
    goes on from it. -/
theorem exists_bind_iff {ε α β : Type} {x : Except ε α} {f : α → Except ε β} {p : Prop}
    (rest : ∀ a, (∃ b, f a = .ok b) ↔ p) :
    (∃ b, (x >>= f) = .ok b) ↔ (∃ a, x = .ok a) ∧ p := by
  constructor
  · rintro ⟨b, done⟩
    obtain ⟨a, first, done⟩ := exists_of_bind done
    exact ⟨⟨a, first⟩, (rest a).mp ⟨b, done⟩⟩
  · rintro ⟨⟨a, rfl⟩, fine⟩
    exact (rest a).mpr fine

/-- Attempts that all succeed give all their results. -/
theorem mapM_eq_ok {α β : Type} {f : α → Attempt β} {g : α → β} {items : List α}
    (each : ∀ a ∈ items, f a = .ok (g a)) : items.mapM f = .ok (items.map g) := by
  induction items with
  | nil => rfl
  | cons a items ih =>
      have rest := ih fun b member => each b (List.mem_cons_of_mem a member)
      rw [List.mapM_cons, each a (by simp), rest]
      rfl

/-- Attempts succeed together if each of them does, with the result in its place. -/
theorem mapM_eq_ok_iff {α β : Type} {f : α → Attempt β} {items : List α} {results : List β} :
    items.mapM f = .ok results ↔ List.Forall₂ (fun a b => f a = .ok b) items results := by
  induction items generalizing results with
  | nil =>
      rw [List.mapM_nil, List.forall₂_nil_left_iff]
      exact ⟨fun same => (Except.ok.inj same).symm, fun empty => by rw [empty]; rfl⟩
  | cons a items ih =>
      rw [List.mapM_cons, List.forall₂_cons_left_iff]
      cases first : f a with
      | error e => simp [bind, Except.bind]
      | ok b =>
          cases rest : items.mapM f with
          | error e =>
              rw [rest] at ih
              simp [bind, Except.bind, ← ih]
          | ok bs =>
              rw [rest] at ih
              simp [bind, Except.bind, pure, Except.pure, ← ih, eq_comm]

theorem exists_mapM_eq_ok {α β : Type} {f : α → Attempt β} {items : List α}
    (each : ∀ a ∈ items, ∃ b, f a = .ok b) : ∃ results, items.mapM f = .ok results := by
  induction items with
  | nil => exact ⟨[], rfl⟩
  | cons a items ih =>
      obtain ⟨b, first⟩ := each a (by simp)
      obtain ⟨results, rest⟩ := ih fun c member => each c (List.mem_cons_of_mem a member)
      exact ⟨b :: results, by rw [List.mapM_cons, first, rest]; rfl⟩

/-- Attempts whose results are got from those of others give, together, what is got from theirs. -/
theorem mapM_eq_ok_map {α β γ : Type} {f : α → Attempt β} {g : α → Attempt γ} {h : β → γ}
    {items : List α} {results : List β} (all : items.mapM f = .ok results)
    (each : ∀ a ∈ items, ∀ b, f a = .ok b → g a = .ok (h b)) :
    items.mapM g = .ok (results.map h) := by
  rw [mapM_eq_ok_iff] at all ⊢
  induction all with
  | nil => exact .nil
  | @cons a b items results first _ ih =>
      rw [List.map_cons]
      refine .cons (each a List.mem_cons_self b first) (ih fun c member => ?_)
      exact each c (List.mem_cons_of_mem a member)

/-- Attempts that failed together did so at one of them. -/
theorem mapM_eq_error {α β : Type} {f : α → Attempt β} {items : List α} {e : Failure}
    (failed : items.mapM f = .error e) : ∃ a ∈ items, f a = .error e := by
  induction items with
  | nil => cases failed
  | cons a items ih =>
      rw [List.mapM_cons] at failed
      rcases error_of_bind failed with first | ⟨b, -, failed⟩
      · exact ⟨a, List.mem_cons_self, first⟩
      rcases error_of_bind failed with rest | ⟨bs, -, done⟩
      · obtain ⟨a', member, stopped⟩ := ih rest
        exact ⟨a', List.mem_cons_of_mem a member, stopped⟩
      · cases done

theorem exists_of_mem_right {α β : Type} {R : α → β → Prop} {items : List α} {results : List β}
    (related : List.Forall₂ R items results) {b : β} (member : b ∈ results) :
    ∃ a ∈ items, R a b := by
  induction related with
  | nil => cases member
  | @cons a c items results first _ ih =>
      rcases List.mem_cons.mp member with rfl | member
      · exact ⟨a, by simp, first⟩
      · obtain ⟨d, inside, found⟩ := ih member
        exact ⟨d, List.mem_cons_of_mem a inside, found⟩

/-- Every result comes from one of the attempts. -/
theorem exists_of_mem_mapM {α β : Type} {f : α → Attempt β} {items : List α} {results : List β}
    (all : items.mapM f = .ok results) {b : β} (member : b ∈ results) :
    ∃ a ∈ items, f a = .ok b :=
  exists_of_mem_right (mapM_eq_ok_iff.mp all) member

/-- Every attempt has its result among the results. -/
theorem exists_of_mapM {α β : Type} {f : α → Attempt β} {items : List α} {results : List β}
    (all : items.mapM f = .ok results) {a : α} (member : a ∈ items) :
    ∃ b ∈ results, f a = .ok b :=
  exists_of_mem_right (R := fun b a => f a = .ok b) (mapM_eq_ok_iff.mp all).flip member

/-- A run of attempts that all succeed is a run without failures. -/
theorem foldlM_eq_ok {α β : Type} {f : β → α → Attempt β} {g : β → α → β} {items : List α}
    {start : β} (each : ∀ a ∈ items, ∀ b, f b a = .ok (g b a)) :
    items.foldlM f start = .ok (items.foldl g start) := by
  induction items generalizing start with
  | nil => rfl
  | cons a items ih =>
      rw [List.foldlM_cons, each a (by simp)]
      exact ih fun b member => each b (List.mem_cons_of_mem a member)

/-- A run of attempts that failed did so at the first of them that fails: those before it went
    well. -/
theorem exists_first_of_foldlM {α β : Type} {f : β → α → Attempt β} {items : List α} {start : β}
    {e : Failure} (failed : items.foldlM f start = .error e) :
    ∃ before a after b, items = before ++ a :: after ∧ before.foldlM f start = .ok b ∧
      f b a = .error e := by
  induction items generalizing start with
  | nil => cases failed
  | cons a items ih =>
      rw [List.foldlM_cons] at failed
      rcases error_of_bind failed with here | ⟨b, first, failed⟩
      · exact ⟨[], a, items, start, rfl, rfl, here⟩
      · obtain ⟨before, a', after, b', rfl, ran, stopped⟩ := ih failed
        exact ⟨a :: before, a', after, b', rfl, by rw [List.foldlM_cons, first]; exact ran, stopped⟩

theorem foldlM_eq_error {α β : Type} {f : β → α → Attempt β} {items : List α} {start : β}
    {e : Failure} (failed : items.foldlM f start = .error e) :
    ∃ a ∈ items, ∃ b, f b a = .error e := by
  obtain ⟨before, a, after, b, rfl, -, stopped⟩ := exists_first_of_foldlM failed
  exact ⟨a, by simp, b, stopped⟩

/-- A run of attempts, each of which succeeds or not wherever the run is, succeeds if all of them
    do. -/
theorem exists_foldlM_iff {α β : Type} {f : β → α → Attempt β} {fits : α → Prop}
    (each : ∀ a b, (∃ c, f b a = .ok c) ↔ fits a) {items : List α} {start : β} :
    (∃ c, items.foldlM f start = .ok c) ↔ ∀ a ∈ items, fits a := by
  induction items generalizing start with
  | nil => exact iff_of_true ⟨start, rfl⟩ fun a member => (List.not_mem_nil member).elim
  | cons a items ih =>
      rw [List.foldlM_cons, List.forall_mem_cons, ← each a start]
      constructor
      · rintro ⟨c, done⟩
        obtain ⟨b, first, rest⟩ := exists_of_bind done
        exact ⟨⟨b, first⟩, ih.mp ⟨c, rest⟩⟩
      · rintro ⟨⟨b, first⟩, others⟩
        rw [first]
        exact ih.mpr others

/-- An attempt with a result succeeded. -/
theorem ok_of_toOption {ε α : Type} {x : Except ε α} {a : α} (found : x.toOption = some a) :
    x = .ok a := by
  cases x with
  | error e => cases found
  | ok b => exact congrArg Except.ok (Option.some.inj found)

end ClusterPrep.Attempt
