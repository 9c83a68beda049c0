import ClusterPrep.Editor.PresetSteps
import ClusterPrep.Proofs.Editor.Refresh
import ClusterPrep.Proofs.Editor.Runs
import ClusterPrep.Proofs.Preset.Directory
import ClusterPrep.Proofs.Preset.Loading

set_option autoImplicit false

/-
  The table of presets, which is filled from whatever is in their directory. A file is listed by the
  name that it tells, but it is loaded by the name that this one stands for; and its values are
  checked as numbers. So the table can be shown, with every row for its own file, exactly if all
  files have proper names and hold no whole number beyond the reals where a number is wanted.
-/
namespace ClusterPrep.Editor

open Preset Value

/-! ### Rows of the table -/

section

variable {nesting : Nesting}

theorem exists_shownAll {vs : List Value} (short : ∀ v ∈ vs, v.IsShort) :
    ∃ s, Value.shownAll vs = .ok s := by
  obtain ⟨ss, shown⟩ := Attempt.exists_mapM_eq_ok fun v member => (short v member).exists_shown
  exact ⟨_, by rw [Value.shownAll, shown]; rfl⟩

theorem exists_gridsText {c : Hpl.Config} (short : ∀ f, (c.get f).IsShort) :
    ∃ s, gridsText c = .ok s := by
  have each : ∀ pq ∈ c.ps.zip c.qs, ∃ s, gridText pq = .ok s := by
    intro pq member
    obtain ⟨left, right⟩ := List.of_mem_zip member
    obtain ⟨p, rows⟩ := (Hpl.isShort_of_mem_multi short (f := .ps) left).exists_shown
    obtain ⟨q, columns⟩ := (Hpl.isShort_of_mem_multi short (f := .qs) right).exists_shown
    exact ⟨_, by rw [gridText, rows, columns]; rfl⟩
  obtain ⟨ss, shown⟩ := Attempt.exists_mapM_eq_ok each
  exact ⟨_, by rw [gridsText, shown]; rfl⟩

/-- There is a row for a preset exactly if it can be loaded. -/
theorem exists_ofPreset_iff {store : Store} {name : Text} :
    (∃ row, Row.ofPreset nesting store name = .ok row) ↔
      ∃ loaded, store.load name nesting = .ok loaded := by
  constructor
  · rintro ⟨row, made⟩
    obtain ⟨loaded, found, -⟩ := Attempt.exists_of_bind made
    exact ⟨loaded, found⟩
  · rintro ⟨⟨c?, notices⟩, loaded⟩
    rw [Row.ofPreset, loaded]
    cases c? with
    | none => exact ⟨_, rfl⟩
    | some c =>
        obtain ⟨short, problems, checked⟩ := shown_of_load loaded
        obtain ⟨ns, sizes⟩ := exists_shownAll fun v => Hpl.isShort_of_mem_multi short (f := .ns)
        obtain ⟨nbs, blocks⟩ := exists_shownAll fun v => Hpl.isShort_of_mem_multi short (f := .nbs)
        obtain ⟨grids, pairs⟩ := exists_gridsText short
        have sizes : Value.shownAll c.ns = .ok ns := sizes
        have blocks : Value.shownAll c.nbs = .ok nbs := blocks
        simp only [bind, Except.bind, checked, sizes, blocks, pairs]
        exact ⟨_, rfl⟩

theorem name_of_ofPreset {store : Store} {name : Text} {row : Row}
    (made : Row.ofPreset nesting store name = .ok row) : row.name = name := by
  obtain ⟨⟨c?, notices⟩, loaded, made⟩ := Attempt.exists_of_bind made
  cases c? with
  | none =>
      cases made
      rfl
  | some c =>
      obtain ⟨problems, checked, made⟩ := Attempt.exists_of_bind made
      obtain ⟨ns, sizes, made⟩ := Attempt.exists_of_bind made
      obtain ⟨nbs, blocks, made⟩ := Attempt.exists_of_bind made
      obtain ⟨grids, pairs, made⟩ := Attempt.exists_of_bind made
      cases made
      rfl

/-- The rows are made without a failure exactly if there is one for every preset. -/
theorem rowsOf_eq_iff {store : Store} {names : List Text} {rows : List Row} :
    rowsOf nesting store names = (rows, none) ↔
      List.Forall₂ (fun name row => Row.ofPreset nesting store name = .ok row) names rows := by
  induction names generalizing rows with
  | nil =>
      rw [rowsOf, List.forall₂_nil_left_iff]
      simp [eq_comm]
  | cons name names ih =>
      rw [rowsOf, List.forall₂_cons_left_iff]
      cases Row.ofPreset nesting store name with
      | error e => simp
      | ok row =>
          rcases made : rowsOf nesting store names with ⟨others, failure⟩
          simp only [← ih, made, Prod.mk.injEq, Except.ok.injEq]
          constructor
          · rintro ⟨rfl, none⟩
            exact ⟨row, others, rfl, ⟨rfl, none⟩, rfl⟩
          · rintro ⟨row', others', rfl, ⟨rfl, none⟩, rfl⟩
            exact ⟨rfl, none⟩

/-- The rows that were made are for the presets, in their order. -/
theorem names_of_rowsOf {store : Store} {names : List Text} {rows : List Row}
    (made : rowsOf nesting store names = (rows, none)) : rows.map Row.name = names := by
  have related := rowsOf_eq_iff.mp made
  clear made
  induction related with
  | nil => rfl
  | cons first _ ih => rw [List.map_cons, name_of_ofPreset first, ih]

/-- The rows are for presets of those names, also if one could not be made. -/
theorem name_mem_of_rowsOf {store : Preset.Store} {names : List Text} {row : Row}
    (made : row ∈ (rowsOf nesting store names).1) : row.name ∈ names := by
  induction names with
  | nil => cases made
  | cons name names ih =>
      rw [rowsOf] at made
      cases first : Row.ofPreset nesting store name with
      | error e =>
          rw [first] at made
          cases made
      | ok found =>
          rw [first] at made
          rcases List.mem_cons.mp made with rfl | later
          · rw [name_of_ofPreset first]
            exact List.mem_cons_self
          · exact List.mem_cons_of_mem name (ih later)

theorem exists_rowsOf_iff {store : Store} {names : List Text} :
    (∃ rows, rowsOf nesting store names = (rows, none)) ↔
      ∀ name ∈ names, ∃ row, Row.ofPreset nesting store name = .ok row := by
  simp only [rowsOf_eq_iff, ← Attempt.mapM_eq_ok_iff]
  constructor
  · rintro ⟨rows, made⟩ name member
    obtain ⟨row, -, single⟩ := Attempt.exists_of_mapM made member
    exact ⟨row, single⟩
  · exact Attempt.exists_mapM_eq_ok

end

/-! ### The screen of presets -/

/-- The session with its top dialog changed. -/
def Session.onTop (s : Session) (d : Dialog) : Session := { s with dialogs := d :: s.dialogs }

/-- Choosing a preset shows the rows that could be made, and fails over the first that could not. -/
theorem run_choosePreset (s : Session) :
    choosePreset.run s = match rowsOf s.nesting s.presets s.presets.names with
      | (rows, none) => .ok ⟨⟩ (s.onTop (.loadPreset ⟨rows, 0, countText s.presets.names⟩))
      | (rows, some e) => .error e (s.onTop (.loadPreset ⟨rows, 0, []⟩)) := by
  have opened : (openDialog (.loadPreset {})).run s = .ok ⟨⟩ (s.onTop (.loadPreset {})) := rfl
  rw [choosePreset, Step.run_bind_of_ok opened, listPresets, Step.run_bind_of_ok (Step.run_get _)]
  change EStateM.run (match rowsOf s.nesting s.presets s.presets.names with
    | (rows, none) => _
    | (rows, some e) => _) _ = _
  rcases rowsOf s.nesting s.presets s.presets.names with ⟨rows, _ | e⟩
  · rfl
  · rfl

/-- A file of the directory that is listed by a name. -/
def Listed (store : Store) (file n : Text) : Prop :=
  (store.file? file).isSome = true ∧ nameOf? file = some n

theorem mem_names_iff {store : Store} {n : Text} :
    n ∈ store.names ↔ ∃ file, Listed store file n := by
  rw [Store.names, List.mem_mergeSort, List.mem_filterMap]
  constructor
  · rintro ⟨f, member, named⟩
    exact ⟨f.1, mem_files_iff.mp (List.mem_map_of_mem member), named⟩
  · rintro ⟨file, there, named⟩
    obtain ⟨f, member, rfl⟩ := List.mem_map.mp (mem_files_iff.mpr there)
    exact ⟨f, member, named⟩

/-- What the screen of presets owes to its user: it opens with a row for every preset, in their
    order; what is loaded from a row is in the file that was listed, whatever else there is; and
    this file is the one that is deleted. -/
structure Copes (s : Session) : Prop where
  opens : ∃ table, choosePreset.run s = .ok ⟨⟩ (s.onTop (.loadPreset table)) ∧
    table.rows.map Row.name = s.presets.names
  loads : ∀ file n, Listed s.presets file n → ∀ other : Store,
    other.file? file = s.presets.file? file →
      other.load n s.nesting = s.presets.load n s.nesting
  deletes : ∀ file n, Listed s.presets file n →
    s.presets.delete n = .ok (s.presets.removeFile file, true)

theorem Copes.exists_rowsOf {s : Session} (copes : Copes s) :
    ∃ rows, rowsOf s.nesting s.presets s.presets.names = (rows, none) := by
  obtain ⟨table, ran, -⟩ := copes.opens
  rw [run_choosePreset] at ran
  split at ran
  · rename_i rows made
    exact ⟨rows, made⟩
  · cases ran

/-- The file that is deleted by a name is that of the name. -/
theorem eq_fileOf_of_delete {store : Store} {file n : Text} (listed : Listed store file n)
    (deleted : store.delete n = .ok (store.removeFile file, true)) :
    checkName n = .ok n ∧ file = fileOf n := by
  obtain ⟨path, found, removed⟩ := Attempt.exists_of_bind deleted
  obtain ⟨m, named, same⟩ := Attempt.exists_of_bind found
  have same : fileOf m = path := Except.ok.inj same
  subst same
  have removed := (Prod.mk.inj (Except.ok.inj removed)).1
  have own : file = fileOf m := by
    by_contra apart
    have kept := store.file?_removeFile_of_ne (fileOf m) file apart
    rw [removed, store.file?_removeFile_self] at kept
    have there := listed.1
    rw [← kept] at there
    cases there
  have told := nameOf?_fileOf (ne_nil_of_checkName named)
  rw [← own, listed.2] at told
  have same : n = m := Option.some.inj told
  rw [same] at named ⊢
  exact ⟨named, own⟩

/-- **When any directory of presets can be shown.** The screen of presets copes with a directory
    exactly if every file that is listed has a name that is a proper one as it stands, and content
    that can be listed. -/
theorem copes_iff (s : Session) :
    Copes s ↔ ∀ file bytes n, s.presets.file? file = some bytes → nameOf? file = some n →
      checkName n = .ok n ∧ Showable s.nesting bytes := by
  constructor
  · intro copes file bytes n held named
    have listed : Listed s.presets file n := ⟨by rw [held]; rfl, named⟩
    obtain ⟨good, own⟩ := eq_fileOf_of_delete listed (copes.deletes file n listed)
    refine ⟨good, ?_⟩
    have row := exists_rowsOf_iff.mp copes.exists_rowsOf n (mem_names_iff.mpr ⟨file, listed⟩)
    obtain ⟨m, named, showable⟩ := exists_load_iff.mp (exists_ofPreset_iff.mp row)
    obtain rfl : n = m := Except.ok.inj (good.symm.trans named)
    exact showable bytes (own ▸ held)
  · intro proper
    have own {file n : Text} (listed : Listed s.presets file n) :
        checkName n = .ok n ∧ file = fileOf n := by
      obtain ⟨bytes, held⟩ := Option.isSome_iff_exists.mp listed.1
      have good := (proper file bytes n held listed.2).1
      exact ⟨good, eq_fileOf_of_nameOf? listed.2 (ne_ending_of_checkName good)⟩
    have path {file n : Text} (listed : Listed s.presets file n) : pathOf n = .ok file := by
      obtain ⟨good, same⟩ := own listed
      rw [pathOf, good, same]
      rfl
    refine ⟨?_, fun file n listed other same => ?_, fun file n listed => ?_⟩
    · have each : ∀ name ∈ s.presets.names,
          ∃ row, Row.ofPreset s.nesting s.presets name = .ok row := by
        intro n member
        obtain ⟨file, listed⟩ := mem_names_iff.mp member
        obtain ⟨good, rfl⟩ := own listed
        exact exists_ofPreset_iff.mpr (exists_load_iff.mpr
          ⟨n, good, fun bytes held => (proper (fileOf n) bytes n held listed.2).2⟩)
      obtain ⟨rows, made⟩ := exists_rowsOf_iff.mpr each
      exact ⟨_, by rw [run_choosePreset, made], names_of_rowsOf made⟩
    · rw [Store.load, Store.load, path listed]
      simp only [bind, Except.bind, same]
    · rw [Store.delete, path listed]
      simp only [bind, Except.bind, listed.1]
      rfl

/-- The start with some files in the directory of presets. -/
def withPresets (store : Store) : Session :=
  { plainStart with presets := store, nesting := .usual }

/-- A preset with one problem size. -/
def sizePreset (digits : Text) : List UInt8 :=
  Text.encode ("\x7b\"ns\": [" ++ digits ++ "]\x7d")

theorem not_copes_of_failure {store : Store}
    (fails : (rowsOf .usual store store.names).2.isSome = true) : ¬ Copes (withPresets store) := by
  intro copes
  obtain ⟨rows, made⟩ := copes.exists_rowsOf
  have made : rowsOf .usual store store.names = (rows, none) := made
  rw [made] at fails
  cases fails

/-- The screen does not open over a file whose name is no name of a preset, nor over a whole number
    beyond the reals; and of two files whose names differ by a blank, the wrong one is deleted. -/
theorem not_copes :
    ¬ Copes (withPresets [("bad!.json", sizePreset "1")]) ∧
      ¬ Copes (withPresets [("large.json", sizePreset ('1' :: Text.copies 400 '0'))]) ∧
      ¬ Copes (withPresets [(" a.json", sizePreset "1"), ("a.json", sizePreset "2")]) := by
  refine ⟨not_copes_of_failure (by decide +kernel), not_copes_of_failure (by decide +kernel), ?_⟩
  intro copes
  have listed :
      Listed (withPresets [(" a.json", sizePreset "1"), ("a.json", sizePreset "2")]).presets
        " a.json" " a" := ⟨by decide +kernel, by decide⟩
  have good := (eq_fileOf_of_delete listed (copes.deletes _ _ listed)).1
  have other : checkName " a" = .ok "a" := by decide
  rw [other] at good
  cases good

end ClusterPrep.Editor
