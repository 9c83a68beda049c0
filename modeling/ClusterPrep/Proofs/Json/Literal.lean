import ClusterPrep.Json.Reader
import ClusterPrep.Proofs.Attempt
import ClusterPrep.Proofs.Number.Digits
import ClusterPrep.Value.Printer

set_option autoImplicit false

/-
  What was read can be shown. The reader takes no whole number that is too long to be written,
  however deep it stands in lists and tables, so that every value that it gives has a literal.
-/
namespace ClusterPrep

open Numeral

namespace Value

/-- A value in which no whole number is too long to be written. -/
inductive IsShort : Value → Prop
  | null : IsShort .null
  | bool (b : Bool) : IsShort (.bool b)
  | int {i : Int} (short : (ofNat i.natAbs).length ≤ maxDigits) : IsShort (.int i)
  | real (x : Binary64) : IsShort (.real x)
  | text (s : Text) : IsShort (.text s)
  | moment (m : Moment) : IsShort (.moment m)
  | list {vs : List Value} (items : ∀ v ∈ vs, IsShort v) : IsShort (.list vs)
  | table {fs : List (Text × Value)} (values : ∀ f ∈ fs, IsShort f.2) : IsShort (.table fs)

theorem exists_literals {vs : List Value} (each : ∀ v ∈ vs, ∃ s, v.literal = .ok s) :
    ∃ ss, literals vs = .ok ss := by
  induction vs with
  | nil => exact ⟨[], rfl⟩
  | cons v vs ih =>
      obtain ⟨s, first⟩ := each v (by simp)
      obtain ⟨ss, rest⟩ := ih fun w member => each w (List.mem_cons_of_mem v member)
      exact ⟨s :: ss, by rw [literals, first, rest]; rfl⟩

theorem exists_fieldLiterals {fs : List (Text × Value)}
    (each : ∀ f ∈ fs, ∃ s, f.2.literal = .ok s) : ∃ ss, fieldLiterals fs = .ok ss := by
  induction fs with
  | nil => exact ⟨[], rfl⟩
  | cons f fs ih =>
      obtain ⟨s, first⟩ := each f (by simp)
      obtain ⟨ss, rest⟩ := ih fun g member => each g (List.mem_cons_of_mem f member)
      exact ⟨_ :: ss, by rw [fieldLiterals, first, rest]; rfl⟩

theorem IsShort.exists_literal {v : Value} (short : IsShort v) : ∃ s, v.literal = .ok s := by
  induction short with
  | null => exact ⟨_, rfl⟩
  | bool b => exact ⟨_, rfl⟩
  | int short => exact ⟨_, writeInt_eq_ok _ short⟩
  | real x => exact ⟨_, rfl⟩
  | text s => exact ⟨_, rfl⟩
  | moment m => exact ⟨_, rfl⟩
  | list items ih =>
      obtain ⟨ss, shown⟩ := exists_literals ih
      exact ⟨_, by rw [literal, shown]; rfl⟩
  | table values ih =>
      obtain ⟨ss, shown⟩ := exists_fieldLiterals ih
      exact ⟨_, by rw [literal, shown]; rfl⟩

theorem IsShort.exists_shown {v : Value} (short : IsShort v) : ∃ s, v.shown = .ok s := by
  cases v with
  | text s => exact ⟨s, rfl⟩
  | _ => exact short.exists_literal

/-- Setting a key puts the value among the others. -/
theorem isShort_set {key : Text} {v : Value} {fs : List (Text × Value)} (short : IsShort v)
    (others : ∀ f ∈ fs, IsShort f.2) : ∀ f ∈ set key v fs, IsShort f.2 := by
  induction fs with
  | nil =>
      intro f member
      rw [List.mem_singleton.mp member]
      exact short
  | cons g fs ih =>
      have rest := ih fun f member => others f (List.mem_cons_of_mem g member)
      intro f member
      rw [set] at member
      split at member
      · rcases List.mem_cons.mp member with rfl | member
        · exact short
        · exact others f (List.mem_cons_of_mem g member)
      · rcases List.mem_cons.mp member with rfl | member
        · exact others _ List.mem_cons_self
        · exact rest f member

end Value

namespace Json

open Value (IsShort)

theorem isShort_unsignedNumber {sgn s rest : Text} {v : Value}
    (read : unsignedNumber sgn s = .ok (v, rest)) : IsShort v := by
  rw [unsignedNumber] at read
  split at read
  · cases read
  · dsimp only at read
    split at read
    · split at read
      · rename_i i value
        cases read
        exact .int (length_ofNat_of_readInt value)
      · cases read
    · split at read
      · cases read
        exact .real _
      · cases read

theorem isShort_atom {s rest : Text} {v : Value} (read : atom s = .ok (v, rest)) :
    IsShort v := by
  rw [atom.eq_def] at read
  split at read
  · cases read
    exact .null
  split at read
  · cases read
    exact .bool true
  split at read
  · cases read
    exact .bool false
  split at read
  · cases read
    exact .real _
  split at read
  · cases read
    exact .real _
  split at read
  · cases read
    exact .real _
  split at read
  · exact isShort_unsignedNumber read
  · exact isShort_unsignedNumber read

/-- Values, items and fields that are read with some fuel are short. -/
structure ReadsShort (k : Nat) : Prop where
  value {depth : Nat} {s rest : Text} {v : Value} (read : value k depth s = .ok (v, rest)) :
    IsShort v
  items {depth : Nat} {s rest : Text} {vs : List Value} (read : items k depth s = .ok (vs, rest)) :
    ∀ v ∈ vs, IsShort v
  fields {depth : Nat} {before fs : List (Text × Value)} {s rest : Text}
    (short : ∀ f ∈ before, IsShort f.2) (read : fields k depth before s = .ok (fs, rest)) :
    ∀ f ∈ fs, IsShort f.2

theorem readsShort_zero : ReadsShort 0 where
  value read := nomatch read
  items read := nomatch read
  fields _ read := nomatch read

section

variable {k : Nat} (reads : ReadsShort k) {depth : Nat} {s rest : Text}
include reads

theorem isShort_value {v : Value} (read : Json.value (k + 1) depth s = .ok (v, rest)) :
    IsShort v := by
  rw [Json.value.eq_def] at read
  dsimp only at read
  split at read
  · obtain ⟨⟨t, after⟩, -, done⟩ := Attempt.exists_of_bind read
    cases done
    exact .text t
  · cases read
  · split at read
    · cases read
      exact .list (by simp)
    · obtain ⟨⟨vs, after⟩, inside, done⟩ := Attempt.exists_of_bind read
      cases done
      exact .list (reads.items inside)
  · cases read
  · split at read
    · cases read
      exact .table (by simp)
    · obtain ⟨⟨fs, after⟩, inside, done⟩ := Attempt.exists_of_bind read
      cases done
      exact .table (reads.fields (by simp) inside)
  · exact isShort_atom read

theorem isShort_items {vs : List Value} (read : Json.items (k + 1) depth s = .ok (vs, rest)) :
    ∀ v ∈ vs, IsShort v := by
  rw [Json.items] at read
  obtain ⟨⟨v, after⟩, first, read⟩ := Attempt.exists_of_bind read
  have short := reads.value first
  dsimp only at read
  split at read
  · obtain ⟨⟨ws, last⟩, others, done⟩ := Attempt.exists_of_bind read
    cases done
    exact List.forall_mem_cons.mpr ⟨short, reads.items others⟩
  · cases read
    simpa using short
  · cases read

theorem isShort_fields {before fs : List (Text × Value)} (short : ∀ f ∈ before, IsShort f.2)
    (read : Json.fields (k + 1) depth before s = .ok (fs, rest)) : ∀ f ∈ fs, IsShort f.2 := by
  rw [Json.fields.eq_def] at read
  dsimp only at read
  split at read
  · obtain ⟨⟨key, after⟩, -, read⟩ := Attempt.exists_of_bind read
    dsimp only at read
    split at read
    · obtain ⟨⟨v, last⟩, first, read⟩ := Attempt.exists_of_bind read
      have now : ∀ f ∈ Value.set key v before, IsShort f.2 :=
        Value.isShort_set (reads.value first) short
      dsimp only at read
      split at read
      · exact reads.fields now read
      · cases read
        exact now
      · cases read
    · cases read
  · cases read

end

theorem readsShort (k : Nat) : ReadsShort k := by
  induction k with
  | zero => exact readsShort_zero
  | succ k reads => exact ⟨isShort_value reads, isShort_items reads, isShort_fields reads⟩

/-- **What was read can be shown.** -/
theorem isShort_of_read {s : Text} {nesting : Nesting} {v : Value}
    (found : Json.read s nesting = .ok v) : IsShort v := by
  obtain ⟨⟨w, rest⟩, first, found⟩ := Attempt.exists_of_bind found
  dsimp only at found
  split at found
  · cases found
    exact (readsShort _).value first
  · cases found

end Json

end ClusterPrep
