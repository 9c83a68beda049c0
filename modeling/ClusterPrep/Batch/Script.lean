import ClusterPrep.Batch.Directive

set_option autoImplicit false

/-
  Batch scripts: from PBS to Slurm. The directives come first, in their order, then the resources
  of the whole script, then all other lines with the names of PBS variables replaced.
-/
namespace ClusterPrep.Batch

/-- The environment variables of PBS, each with the one of Slurm that means the same. -/
def renamings : List (Text × Text) := [
  ("$PBS_O_WORKDIR", "$SLURM_SUBMIT_DIR"),
  ("$PBS_NODEFILE", "$SLURM_JOB_NODELIST"),
  ("$PBS_JOBID", "$SLURM_JOB_ID"),
  ("$PBS_ARRAYID", "$SLURM_ARRAY_TASK_ID")]

/-- A line with the names of variables replaced, one after the other. -/
def renameVariables (line : Text) : Text :=
  renamings.foldl (fun s v => Text.replaceAll v.1 v.2 s) line

/-- The resources after a line. -/
def requestAfter (r : Resources) (line : Text) : Resources :=
  match Directive.ofLine? line with
  | some d => if d.treatment = .resources then r.addList d.value else r
  | none => r

/-- The resources that a script asks for. -/
def request (script : Text) : Resources := (Text.lines script).foldl requestAfter {}

/-- What has been gathered from the lines of a script so far. -/
structure Gathered where
  directives : List Text := []
  body : List Text := []
  resources : Resources := {}

/-- What is gathered after one more line. -/
def Gathered.add (g : Gathered) (line : Text) : Gathered :=
  if isDirectiveLine line then
    match Directive.ofLine? line with
    | none => g
    | some d =>
      if d.treatment = .resources then { g with resources := g.resources.addList d.value }
      else match d.slurmLine? with
        | some l => { g with directives := g.directives ++ [l] }
        | none => g
  else { g with body := g.body ++ [renameVariables line] }

/-- The first line of every Slurm script. -/
def interpreter : Text := "#!/bin/bash"

/-- The script of what has been gathered. -/
def Gathered.script (g : Gathered) : Text :=
  let directives := g.directives ++ g.resources.slurmLines
  let top := interpreter ++ "\n"
  let top := if directives.isEmpty then top else top ++ Text.unlines directives ++ "\n"
  Text.strip (top ++ "\n" ++ Text.unlines g.body)

/-- The Slurm script for a PBS script; nothing for an empty one. -/
def convert (script : Text) : Text :=
  if script.isEmpty then []
  else ((Text.lines script).foldl Gathered.add {}).script

end ClusterPrep.Batch
