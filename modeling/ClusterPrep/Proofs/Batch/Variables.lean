import ClusterPrep.Batch.Script
import ClusterPrep.Proofs.Text.Replacing

set_option autoImplicit false

/-
  The names of variables in the other lines of a script. They are replaced one after the other, yet
  as if all at once: the names and what replaces them differ right after their dollar sign, or
  further on, so that no replacement makes or destroys another name.
-/
namespace ClusterPrep.Batch

theorem distinct_renamings : Text.Distinct '$' renamings where
  old := by decide
  new := by decide
  apart := by decide
  single := by decide

/-- A renaming of variables that is one pass over the line and final. -/
structure RenamesAtOnce (names : List (Text × Text)) (rename : Text → Text) : Prop where
  /-- One pass from the left replaces every name and copies all else. -/
  pass : ∀ line t, Text.Replaced names line t ↔ t = rename line
  final : ∀ line, ∀ v ∈ names, ¬ v.1 <:+: rename line
  order : ∀ order : List (Text × Text), order.Perm names →
    ∀ line, Text.replaceEach order line = rename line
  idempotent : ∀ line, rename (rename line) = rename line
  unlines : ∀ ls : List Text, rename (Text.unlines ls) = Text.unlines (ls.map rename)

/-- **Variables are renamed all at once**, though one after the other: the four of PBS become those
    of Slurm, in any order. -/
theorem renameVariables_atOnce :
    RenamesAtOnce [
      ("$PBS_O_WORKDIR", "$SLURM_SUBMIT_DIR"), ("$PBS_NODEFILE", "$SLURM_JOB_NODELIST"),
      ("$PBS_JOBID", "$SLURM_JOB_ID"), ("$PBS_ARRAYID", "$SLURM_ARRAY_TASK_ID")]
      renameVariables := by
  show RenamesAtOnce renamings renameVariables
  constructor
  case pass => exact fun line t => Text.replaced_iff distinct_renamings
  case final =>
    intro line
    exact (Text.replaced_replaceEach distinct_renamings line).not_isInfix distinct_renamings
  case order => exact fun order perm line => Text.replaceEach_perm distinct_renamings perm line
  case idempotent => exact fun line => Text.replaceEach_replaceEach distinct_renamings line
  case unlines => exact fun ls => Text.replaceEach_unlines distinct_renamings (by decide) ls

/-- A line with all four names, of which one follows a dollar sign and one goes on, and with the
    beginning of another. -/
def jobLine : Text := "$PBS_NODEFILE $$PBS_O_WORKDIR $PBS_JOBIDS$PBS_ARRAYID $PBS_JOB"

/-- The same with the names of Slurm. -/
def slurmJobLine : Text :=
  "$SLURM_JOB_NODELIST $$SLURM_SUBMIT_DIR $SLURM_JOB_IDS$SLURM_ARRAY_TASK_ID $PBS_JOB"

theorem renameVariables_atOnce_jobLine :
    renameVariables jobLine = slurmJobLine ∧ renameVariables slurmJobLine = slurmJobLine ∧
      Text.Replaced [
        ("$PBS_O_WORKDIR", "$SLURM_SUBMIT_DIR"), ("$PBS_NODEFILE", "$SLURM_JOB_NODELIST"),
        ("$PBS_JOBID", "$SLURM_JOB_ID"), ("$PBS_ARRAYID", "$SLURM_ARRAY_TASK_ID")]
        jobLine slurmJobLine ∧
      ∀ name ∈ ["$PBS_O_WORKDIR", "$PBS_NODEFILE", "$PBS_JOBID", "$PBS_ARRAYID"],
        ¬ Text.ofString name <:+: slurmJobLine := by
  have renamed : renameVariables jobLine = slurmJobLine := by decide +kernel
  have final := renameVariables_atOnce.final jobLine
  have idempotent := renameVariables_atOnce.idempotent jobLine
  rw [renamed] at final idempotent
  refine ⟨renamed, idempotent, (renameVariables_atOnce.pass _ _).mpr renamed.symm, ?_⟩
  simpa using final

end ClusterPrep.Batch
