import ClusterPrep.Files.Tree

set_option autoImplicit false

/-
  A file that was written is read back. Writing puts no file where a directory was, so that every
  path leads to the same place as before.
-/
namespace ClusterPrep.Files.Tree

/-- A file put where no directory is does not stop a walk. -/
theorem walk_put {t : Tree} {place here found : Place} {names : List Text} (n : Node)
    (free : t.node? place ≠ some .directory) (walked : t.walk here names = .ok found) :
    (t.put place n).walk here names = .ok found := by
  induction names generalizing here with
  | nil => exact walked
  | cons name names ih =>
      rw [walk] at walked ⊢
      split at walked
      · cases walked
      · rename_i short
        rw [if_neg short]
        dsimp only at walked ⊢
        by_cases last : names = []
        · rw [if_pos last] at walked ⊢
          exact walked
        · rw [if_neg last] at walked ⊢
          cases through : t.node? (if name = ".." then here.parent else here.child name) with
          | none =>
              rw [through] at walked
              cases walked
          | some node =>
              rw [through] at walked
              cases node with
              | file bytes => cases walked
              | directory =>
                  -- The walk goes on through a directory, which is not the place of the file.
                  have apart : (if name = ".." then here.parent else here.child name) ≠ place := by
                    intro same
                    exact free (same ▸ through)
                  rw [node?_put_of_ne t place _ n apart, through]
                  exact ih walked

theorem resolve_put {t : Tree} {place found : Place} {p : Path} (n : Node)
    (free : t.node? place ≠ some .directory) (resolved : t.resolve p = .ok found) :
    (t.put place n).resolve p = .ok found := by
  rw [resolve] at resolved ⊢
  split at resolved
  · cases resolved
  · rename_i short
    rw [if_neg short]
    exact walk_put n free resolved

/-- Writing puts a file at the place that the path leads to, where no directory is. -/
theorem exists_put_of_writeBytes {t u : Tree} {p : Path} {bytes : List UInt8}
    (written : t.writeBytes p bytes = .ok u) : ∃ place, t.resolve p = .ok place ∧
      t.node? place ≠ some .directory ∧ u = t.put place (.file bytes) := by
  rw [writeBytes] at written
  cases resolved : t.resolve p with
  | error e =>
      rw [resolved] at written
      cases written
  | ok place =>
      rw [resolved] at written
      have free : t.node? place ≠ some .directory := by
        intro directory
        simp only [bind, Except.bind, directory] at written
        cases written
      refine ⟨place, rfl, free, ?_⟩
      simp only [bind, Except.bind] at written
      exact (Except.ok.inj written).symm

/-- What was written at a path is read there. -/
theorem readBytes_writeBytes {t u : Tree} {p : Path} {bytes : List UInt8}
    (written : t.writeBytes p bytes = .ok u) : u.readBytes p = .ok bytes := by
  obtain ⟨place, resolved, free, rfl⟩ := exists_put_of_writeBytes written
  have named : place.names ≠ [] := fun none => free (by rw [node?, if_pos none])
  rw [readBytes, resolve_put _ free resolved]
  simp only [bind, Except.bind, node?_put_self t place _ named]
  rfl

/-- Writing at a path changes what is at the place that it leads to, and nothing else. -/
theorem resolve_of_writeBytes {t u : Tree} {p : Path} {bytes : List UInt8} {place : Place}
    (written : t.writeBytes p bytes = .ok u) (changed : u.node? place ≠ t.node? place) :
    t.resolve p = .ok place := by
  obtain ⟨target, resolved, -, rfl⟩ := exists_put_of_writeBytes written
  by_cases same : place = target
  · rw [resolved, same]
  · exact absurd (node?_put_of_ne t target place _ same) changed

end ClusterPrep.Files.Tree
