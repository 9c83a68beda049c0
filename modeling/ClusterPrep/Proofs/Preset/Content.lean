import ClusterPrep.Preset.Store
import ClusterPrep.Proofs.Hpl.Check
import ClusterPrep.Proofs.Hpl.Fields
import ClusterPrep.Proofs.Json.RoundTrip

set_option autoImplicit false

/-
  What preset files hold. A configuration is written as JSON and loaded from its bytes as it was,
  whatever its texts and numbers are, as long as the reals reach them and they have an encoding.
-/
namespace ClusterPrep.Preset

/-- A value of the kinds that presets keep: nothing, a truth value, a whole number within the reals,
    a real, or a text without stray halves of surrogate pairs. -/
def IsStorable : Value → Prop
  | .null | .bool _ | .real _ => True
  | .int i => (Binary64.ofInt i).isFinite = true
  | .text s => ∀ c ∈ s, c.isHalf = false
  | .moment _ | .list _ | .table _ => False

instance : DecidablePred IsStorable
  | .null | .bool _ | .real _ => isTrue trivial
  | .int i => inferInstanceAs (Decidable ((Binary64.ofInt i).isFinite = true))
  | .text s => inferInstanceAs (Decidable (∀ c ∈ s, c.isHalf = false))
  | .moment _ | .list _ | .table _ => isFalse id

/-- A field with such a value, or a list of them. -/
def IsStorableIn (c : Hpl.Config) : Hpl.Field → Prop
  | .single f => IsStorable (c.single f)
  | .multi f => ∀ v ∈ c.multi f, IsStorable v

instance (c : Hpl.Config) : DecidablePred (IsStorableIn c)
  | .single f => inferInstanceAs (Decidable (IsStorable (c.single f)))
  | .multi f => inferInstanceAs (Decidable (∀ v ∈ c.multi f, IsStorable v))

/-- A configuration of such values. -/
def Storable (c : Hpl.Config) : Prop := ∀ f, IsStorableIn c f

instance : DecidablePred Storable := fun c =>
  decidable_of_iff (∀ f ∈ Hpl.Field.all, IsStorableIn c f)
    ⟨fun each f => each f (Hpl.Field.mem_all f), fun each f _ => each f⟩

namespace IsStorable

variable {v : Value} (storable : IsStorable v)
include storable

theorem within {i : Int} (whole : v = .int i) :
    Binary64.ofInt? i = .ok (Binary64.ofInt i) := by
  subst whole
  exact Binary64.unlessInfinite_of_isFinite storable _

theorem short {i : Int} (whole : v = .int i) :
    (Numeral.ofNat i.natAbs).length ≤ Numeral.maxDigits :=
  Binary64.length_ofNat_of_ofInt? (storable.within whole)

theorem hasJson (d : Nat) : Json.HasJson d v := by
  cases v with
  | null => exact .null d
  | bool b => exact .bool d b
  | int i => exact .int d (storable.short rfl)
  | real x => exact .real d x
  | text s => exact .text d storable
  | _ => exact absurd storable id

theorem exists_isNumber : ∃ proper, Hpl.isNumber v = .ok proper := by
  cases v with
  | int i => exact ⟨true, by rw [Hpl.isNumber, storable.within rfl]; rfl⟩
  | _ => exact ⟨_, rfl⟩

theorem exists_literal : ∃ s, v.literal = .ok s := by
  cases v with
  | int i => exact ⟨_, Numeral.writeInt_eq_ok i (storable.short rfl)⟩
  | list vs => exact absurd storable id
  | table fs => exact absurd storable id
  | _ => exact ⟨_, rfl⟩

end IsStorable

section

variable {c : Hpl.Config} (storable : Storable c)
include storable

theorem Storable.hasJson (nesting : Nesting) :
    Json.HasJson nesting.json (.table c.toTable) := by
  obtain ⟨d, depth⟩ : ∃ d, nesting.json = d + 1 + 1 :=
    ⟨nesting.json - 2, by have room := nesting.room; omega⟩
  have keys : c.toTable.map Prod.fst = Hpl.Field.all.map Hpl.Field.key := by
    rw [Hpl.Config.toTable, List.map_map]
    rfl
  have whole : ∀ key ∈ Hpl.Field.all.map Hpl.Field.key, ∀ a ∈ key, a.isHalf = false := by decide
  rw [depth]
  refine .table ?_ (fun f member => ?_) fun f member => ?_
  · rw [keys]
    decide
  · exact whole f.1 (keys ▸ List.mem_map_of_mem member)
  · obtain ⟨g, -, rfl⟩ := List.mem_map.mp member
    have held := storable g
    cases g with
    | single g => exact held.hasJson _
    | multi g => exact .list fun v inside => (held v inside).hasJson d

/-- **The bytes of a preset file hold the configuration that was written.** -/
theorem Storable.exists_parse (nesting : Nesting) :
    ∃ s, Store.fileText c = .ok s ∧
      Store.parse (Text.encode s) nesting = .ok (.table c.toTable) := by
  obtain ⟨s, written, ascii, read⟩ := Json.read_write (storable.hasJson nesting)
  have lines : Text.IsAscii (s ++ "\n") := ascii.append (by decide)
  refine ⟨s ++ "\n", by rw [Store.fileText, written]; rfl, ?_⟩
  rw [Store.parse, lines.decode?_encode]
  dsimp only
  rw [lines.unifyNewlines_eq, read]

theorem Storable.exists_problems : ∃ found, Hpl.problems c .null = .ok found :=
  Hpl.exists_problems (fun f v member => (storable (.multi f) v member).exists_isNumber)
    (fun f v member => (storable (.multi f) v member).exists_literal)
    (fun f _ => IsStorable.exists_isNumber (storable (.single f))) (Or.inl rfl)

/-- A configuration is loaded from the file that holds it. -/
theorem Storable.load_eq {store : Store} {s n t : Text} (nesting : Nesting)
    (named : checkName s = .ok n) (written : Store.fileText c = .ok t)
    (held : store.file? (fileOf n) = some (Text.encode t)) :
    ∃ notices, store.load s nesting = .ok (some c, notices) := by
  obtain ⟨t', written', parsed⟩ := storable.exists_parse nesting
  obtain ⟨found, checked⟩ := storable.exists_problems
  obtain rfl : t' = t := Except.ok.inj (written'.symm.trans written)
  have known : Store.knownFields? (.table c.toTable) = some c.toTable := by
    have some : c.toTable.any (fun f => (Hpl.Field.ofKey? f.1).isSome) = true := rfl
    rw [Store.knownFields?, if_pos some]
  rw [Store.load, pathOf, named]
  simp only [bind, Except.bind, pure, Except.pure, held, parsed, known,
    Hpl.Config.ofTable_toTable, checked]
  exact ⟨_, rfl⟩

end

end ClusterPrep.Preset
