import ClusterPrep.Proofs.Preset.Content
import ClusterPrep.Proofs.Preset.Name
import Mathlib.Data.List.Nodup
import Mathlib.Logic.Function.Basic

set_option autoImplicit false

/-
  The directory of presets as a map. It has a file for every name of the map, with the bytes of the
  configuration that the map has for it, and no other file.
-/
namespace ClusterPrep.Preset

/-! ### The order of names -/

theorem toNat_ne {a b : CodePoint} (apart : a ≠ b) : a.toNat ≠ b.toNat := by
  intro same
  exact apart (by rw [← CodePoint.ofNat_toNat a, same, CodePoint.ofNat_toNat])

theorem textLe_total (s t : Text) : (Store.textLe s t || Store.textLe t s) = true := by
  induction s generalizing t with
  | nil => rfl
  | cons a s ih =>
      cases t with
      | nil => rfl
      | cons b t =>
          by_cases same : a = b
          · subst same
            simpa [Store.textLe] using ih t
          · simp only [Store.textLe, same, Ne.symm same, ↓reduceIte, Bool.or_eq_true,
              decide_eq_true_eq]
            omega

theorem textLe_trans {s t u : Text} (first : Store.textLe s t = true)
    (second : Store.textLe t u = true) : Store.textLe s u = true := by
  induction s generalizing t u with
  | nil => rfl
  | cons a s ih =>
      cases t with
      | nil => cases first
      | cons b t =>
          cases u with
          | nil => cases second
          | cons c u =>
              rw [Store.textLe] at first second ⊢
              by_cases left : a = b
              · subst left
                by_cases right : a = c
                · rw [if_pos rfl] at first
                  rw [if_pos right] at second ⊢
                  exact ih first second
                · rwa [if_neg right] at second ⊢
              · rw [if_neg left] at first
                have below := of_decide_eq_true first
                have apart := toNat_ne left
                by_cases right : b = c
                · subst right
                  rwa [if_neg left]
                · rw [if_neg right] at second
                  have beneath := of_decide_eq_true second
                  have other : a ≠ c := by
                    rintro rfl
                    omega
                  rw [if_neg other]
                  exact decide_eq_true (Nat.le_trans below beneath)

/-! ### The files of a directory -/

section

variable {store : Store} {name : Text}

theorem mem_files_iff : name ∈ store.map Prod.fst ↔ (store.file? name).isSome = true := by
  rw [Store.file?, List.lookup_isSome_iff, List.mem_map]
  simp only [beq_iff_eq, eq_comm (a := name)]

theorem files_putFile (store : Store) (name : Text) (bytes : List UInt8) :
    (store.putFile name bytes).map Prod.fst =
      if name ∈ store.map Prod.fst then store.map Prod.fst else store.map Prod.fst ++ [name] := by
  induction store with
  | nil => rfl
  | cons f store ih =>
      obtain ⟨n, b⟩ := f
      rw [Store.putFile]
      by_cases same : n = name
      · subst same
        simp
      · have other : ¬ name = n := Ne.symm same
        rw [if_neg same, List.map_cons, ih, List.map_cons]
        by_cases there : name ∈ store.map Prod.fst
        · rw [if_pos there, if_pos (List.mem_cons_of_mem n there)]
        · rw [if_neg there, if_neg (by simp [other, there])]
          rfl

theorem files_removeFile (store : Store) (name : Text) :
    ((store.removeFile name).map Prod.fst).Sublist (store.map Prod.fst) :=
  List.Sublist.map Prod.fst List.filter_sublist

end

/-! ### The map of a directory -/

/-- Configurations by name. -/
abbrev Entries := Text → Option Hpl.Config

/-- A file, or none, holds what a map has for a name. -/
inductive Holds : Option (List UInt8) → Option Hpl.Config → Prop
  | missing : Holds none none
  | held {c : Hpl.Config} {t : Text} (storable : Storable c)
      (written : Store.fileText c = .ok t) : Holds (some (Text.encode t)) (some c)

theorem Holds.isSome_eq {bytes? : Option (List UInt8)} {c? : Option Hpl.Config}
    (holds : Holds bytes? c?) : bytes?.isSome = c?.isSome := by
  cases holds with
  | missing => rfl
  | held => rfl

/-- The directory has a file for every name of the map and no others. -/
structure Represents (store : Store) (m : Entries) : Prop where
  distinct : (store.map Prod.fst).Nodup
  named : ∀ file ∈ store.map Prod.fst, ∃ n, n ≠ [] ∧ file = fileOf n
  unnamed : m [] = none
  holds : ∀ n, n ≠ [] → Holds (store.file? (fileOf n)) (m n)

namespace Represents

theorem empty : Represents [] fun _ => none where
  distinct := List.nodup_nil
  named := by simp
  unnamed := rfl
  holds _ _ := .missing

variable {store : Store} {m : Entries} (rep : Represents store m)
include rep

theorem ne_nil {n : Text} (there : (m n).isSome = true) : n ≠ [] := by
  rintro rfl
  rw [rep.unnamed] at there
  cases there

/-- Writing a file sets an entry and leaves all others. -/
theorem putFile {n t : Text} {c : Hpl.Config} (nonempty : n ≠ []) (storable : Storable c)
    (written : Store.fileText c = .ok t) :
    Represents (store.putFile (fileOf n) (Text.encode t)) (Function.update m n (some c)) where
  distinct := by
    rw [files_putFile]
    split
    · exact rep.distinct
    · rename_i new
      exact List.nodup_append.mpr ⟨rep.distinct, by simp, fun a there b last => by
        rintro rfl
        exact new (List.mem_singleton.mp last ▸ there)⟩
  named file member := by
    rw [files_putFile] at member
    split at member
    · exact rep.named file member
    · rcases List.mem_append.mp member with there | last
      · exact rep.named file there
      · exact ⟨n, nonempty, List.mem_singleton.mp last⟩
  unnamed := by rw [Function.update_of_ne (Ne.symm nonempty), rep.unnamed]
  holds k some := by
    by_cases same : k = n
    · subst same
      rw [Store.file?_putFile_self, Function.update_self]
      exact .held storable written
    · rw [Store.file?_putFile_of_ne _ _ _ _ (fileOf_injective.ne same),
        Function.update_of_ne same]
      exact rep.holds k some

/-- Removing a file takes an entry away and leaves all others. -/
theorem removeFile {n : Text} (nonempty : n ≠ []) :
    Represents (store.removeFile (fileOf n)) (Function.update m n none) where
  distinct := rep.distinct.sublist (files_removeFile store _)
  named file member := rep.named file ((files_removeFile store _).subset member)
  unnamed := by rw [Function.update_of_ne (Ne.symm nonempty), rep.unnamed]
  holds k some := by
    by_cases same : k = n
    · subst same
      rw [Store.file?_removeFile_self, Function.update_self]
      exact .missing
    · rw [Store.file?_removeFile_of_ne _ _ _ (fileOf_injective.ne same),
        Function.update_of_ne same]
      exact rep.holds k some

theorem nameOf?_eq_some_iff {file n : Text} (member : file ∈ store.map Prod.fst) :
    nameOf? file = some n ↔ n ≠ [] ∧ file = fileOf n := by
  obtain ⟨k, nonempty, rfl⟩ := rep.named file member
  rw [nameOf?_fileOf nonempty, Option.some_inj]
  constructor
  · rintro rfl
    exact ⟨nonempty, rfl⟩
  · rintro ⟨-, same⟩
    exact fileOf_injective same

/-! ### The list of names -/

theorem mem_names_iff (n : Text) : n ∈ store.names ↔ (m n).isSome = true := by
  have listed : n ∈ store.names ↔ n ≠ [] ∧ fileOf n ∈ store.map Prod.fst := by
    rw [Store.names, List.mem_mergeSort, List.mem_filterMap]
    constructor
    · rintro ⟨f, member, found⟩
      have file : f.1 ∈ store.map Prod.fst := List.mem_map_of_mem member
      obtain ⟨nonempty, same⟩ := (rep.nameOf?_eq_some_iff file).mp found
      exact ⟨nonempty, same ▸ file⟩
    · rintro ⟨nonempty, file⟩
      obtain ⟨f, member, same⟩ := List.mem_map.mp file
      exact ⟨f, member, by rw [same, nameOf?_fileOf nonempty]⟩
  rw [listed, mem_files_iff]
  constructor
  · rintro ⟨nonempty, file⟩
    rwa [← (rep.holds n nonempty).isSome_eq]
  · intro there
    have nonempty := rep.ne_nil there
    exact ⟨nonempty, by rwa [(rep.holds n nonempty).isSome_eq]⟩

theorem nodup_names : store.names.Nodup := by
  rw [Store.names, (List.mergeSort_perm _ _).nodup_iff, List.Nodup, List.pairwise_filterMap]
  have distinct : store.Pairwise fun f g => f.1 ≠ g.1 := List.pairwise_map.mp rep.distinct
  refine distinct.imp_of_mem fun {f g} inside inside' apart n first n' second => ?_
  obtain ⟨-, same⟩ := (rep.nameOf?_eq_some_iff (List.mem_map_of_mem inside)).mp first
  obtain ⟨-, same'⟩ := (rep.nameOf?_eq_some_iff (List.mem_map_of_mem inside')).mp second
  rintro rfl
  exact apart (same.trans same'.symm)

end Represents

/-- Names are listed in the order of their small forms. -/
theorem pairwise_names (store : Store) :
    store.names.Pairwise fun a b => Store.textLe (Text.lower a) (Text.lower b) = true := by
  apply List.pairwise_mergeSort
  · exact fun _ _ _ => textLe_trans
  · exact fun _ _ => textLe_total _ _

end ClusterPrep.Preset
