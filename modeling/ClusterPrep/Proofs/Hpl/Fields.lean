import ClusterPrep.Hpl.Config
import ClusterPrep.Proofs.Attempt

set_option autoImplicit false

/-
  A configuration is known by its fields. One that is filled field by field holds in every field
  what was put there, whatever it held before.
-/
namespace ClusterPrep.Hpl

/-- What a field holds after a value was put there: a list field always holds a list. -/
def Field.fitted : Field → Value → Value
  | .multi _, .list items => .list items
  | .multi _, v => .list [v]
  | .single _, v => v

theorem Field.mem_all (f : Field) : f ∈ Field.all := by
  cases f with
  | single f => cases f <;> decide
  | multi f => cases f <;> decide

theorem Field.nodup_all : Field.all.Nodup := by decide

namespace Config

theorem get_set_self (c : Config) (v : Value) (f : Field) : (c.set v f).get f = f.fitted v := by
  cases f with
  | single f => exact c.single_setSingle v f
  | multi f => cases v <;> simp [set, get, Field.fitted]

theorem get_set_of_ne (c : Config) (v : Value) {f g : Field} (apart : g ≠ f) :
    (c.set v f).get g = c.get g := by
  have set_eq (f : Multi) : ∃ items, c.set v (.multi f) = c.setMulti items f := by
    cases v <;> exact ⟨_, rfl⟩
  cases f with
  | single f =>
      cases g with
      | single g => exact c.single_setSingle_of_ne v f g fun same => apart (by rw [same])
      | multi g => exact congrArg Value.list (c.multi_setSingle v f g)
  | multi f =>
      obtain ⟨items, set_eq⟩ := set_eq f
      rw [set_eq]
      cases g with
      | single g => exact c.single_setMulti items f g
      | multi g =>
          exact congrArg Value.list
            (c.multi_setMulti_of_ne items f g fun same => apart (by rw [same]))

theorem ext_get {c d : Config} (same : ∀ f, c.get f = d.get f) : c = d := by
  have single (f : Single) : c.single f = d.single f := same (.single f)
  have multi (f : Multi) : c.multi f = d.multi f := Value.list.inj (same (.multi f))
  obtain ⟨⟩ := c
  obtain ⟨⟩ := d
  congr
  · exact single .outFile
  · exact single .outDevice
  · exact multi .ns
  · exact multi .nbs
  · exact single .pmap
  · exact multi .ps
  · exact multi .qs
  · exact single .threshold
  · exact multi .pfacts
  · exact multi .nbmins
  · exact multi .ndivs
  · exact multi .rfacts
  · exact multi .bcasts
  · exact multi .depths
  · exact single .swap
  · exact single .swappingThreshold
  · exact single .l1
  · exact single .u
  · exact single .equilibration
  · exact single .alignment

/-- What a field holds fits it. -/
theorem fitted_get (c : Config) (f : Field) : f.fitted (c.get f) = c.get f := by
  cases f <;> rfl

section

variable {ι : Type} {items : List ι} {start : Config}

/-- Filling different fields puts a value into each of them and leaves the others alone. -/
theorem get_of_foldlM_set (field : ι → Field) {value : ι → Attempt Value} {c : Config}
    (distinct : (items.map field).Nodup)
    (filled : items.foldlM (fun c i => do return c.set (← value i) (field i)) start = .ok c) :
    (∀ i ∈ items, ∃ v, value i = .ok v ∧ c.get (field i) = (field i).fitted v) ∧
      ∀ f, f ∉ items.map field → c.get f = start.get f := by
  induction items generalizing start with
  | nil =>
      cases filled
      simp
  | cons i items ih =>
      obtain ⟨fresh, distinct⟩ := List.nodup_cons.mp distinct
      rw [List.foldlM_cons] at filled
      cases first : value i with
      | error e =>
          rw [first] at filled
          cases filled
      | ok v =>
          rw [first] at filled
          obtain ⟨put, kept⟩ := ih distinct filled
          constructor
          · intro j member
            rcases List.mem_cons.mp member with rfl | member
            · exact ⟨v, first, by rw [kept _ fresh, get_set_self]⟩
            · exact put j member
          · intro f outside
            rw [List.map_cons, List.mem_cons, not_or] at outside
            rw [kept f outside.2, get_set_of_ne _ _ outside.1]

/-- Fields that are all set to what another configuration holds make up that one. -/
theorem foldl_set_all (c : Config) : Field.all.foldl (fun d f => d.set (c.get f) f) start = c := by
  have filled : Field.all.foldlM (m := Attempt)
      (fun d f => do return d.set (← Except.ok (c.get f)) f) start =
        .ok (Field.all.foldl (fun d f => d.set (c.get f) f) start) :=
    Attempt.foldlM_eq_ok fun f _ d => rfl
  obtain ⟨put, -⟩ := get_of_foldlM_set id
    (by rw [List.map_id]; exact Field.nodup_all) filled
  refine ext_get fun f => ?_
  obtain ⟨v, read, held⟩ := put f f.mem_all
  cases read
  exact held.trans (fitted_get c f)

theorem foldlM_set_all {value : Field → Attempt Value} {c : Config}
    (each : ∀ f, value f = .ok (c.get f)) :
    Field.all.foldlM (fun c f => do return c.set (← value f) f) start = .ok c := by
  have filled : Field.all.foldlM (fun c f => do return c.set (← value f) f) start =
      .ok (Field.all.foldl (fun d f => d.set (c.get f) f) start) :=
    Attempt.foldlM_eq_ok fun f _ d => by
      rw [each f]
      rfl
  rw [filled, foldl_set_all]

/-- A configuration that was filled field by field holds what every field was filled with. -/
theorem foldlM_set_all_iff {value : Field → Attempt Value} {c : Config}
    (fits : ∀ f v, value f = .ok v → f.fitted v = v) :
    Field.all.foldlM (fun c f => do return c.set (← value f) f) start = .ok c ↔
      ∀ f, value f = .ok (c.get f) := by
  refine ⟨fun filled f => ?_, foldlM_set_all⟩
  obtain ⟨put, -⟩ := get_of_foldlM_set id
    (by rw [List.map_id]; exact Field.nodup_all) filled
  obtain ⟨v, read, held⟩ := put f f.mem_all
  rw [read]
  exact congrArg Except.ok ((fits f v read).symm.trans held.symm)

end

/-- The table of a configuration holds it. -/
theorem ofTable_toTable (c : Config) : ofTable c.toTable = c := by
  have ofKey (f : Field) : Field.ofKey? f.key = some f := by
    cases f with
    | single f => cases f <;> rfl
    | multi f => cases f <;> rfl
  rw [ofTable, toTable, List.foldl_map]
  simp only [ofKey]
  exact foldl_set_all c

end Config

end ClusterPrep.Hpl
