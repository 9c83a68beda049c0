import ClusterPrep.Number.Numeral
import ClusterPrep.Text.Search

set_option autoImplicit false

/-
  The resources that a batch script asks for. The lines with requests add up; of two requests for
  the same thing the later one counts.
-/
namespace ClusterPrep.Batch

/-- What begins a directive line for Slurm. -/
def slurmMarker : Text := "#SBATCH"

/-- The resources asked for, in the words of the script. -/
structure Resources where
  nodes : Option Text := none
  tasksPerNode : Option Text := none
  wallTime : Option Text := none
  memory : Option Text := none
deriving DecidableEq

namespace Resources

/-- A Slurm line for an option, unless its value is missing or empty. -/
def slurmLine (option : Text) : Option Text → List Text
  | none | some [] => []
  | some value => [slurmMarker ++ " --" ++ option ++ "=" ++ value]

/-- The Slurm lines of a request: nodes, tasks, time and memory. -/
def slurmLines (r : Resources) : List Text :=
  slurmLine "nodes" r.nodes ++ slurmLine "ntasks-per-node" r.tasksPerNode ++
    slurmLine "time" r.wallTime ++ slurmLine "mem" r.memory

/-- Nodes times tasks per node, when both are whole numbers. -/
def totalTasks (r : Resources) : Option Int := do
  let n ← (Numeral.readInt (← r.nodes)).toOption
  let k ← (Numeral.readInt (← r.tasksPerNode)).toOption
  return n * k

/-- The keys that ask for tasks per node. -/
def isTasksKey (key : Text) : Bool := key == "ppn" || key == "ncpus" || key == "mpiprocs"

/-- The tasks per node among the qualifiers of a chunk: the first that asks for them. -/
def chunkTasks : List Text → Option Text
  | [] => none
  | s :: rest =>
    match Text.cut '=' s with
    | (key, some v) => if isTasksKey key then some v else chunkTasks rest
    | (_, none) => chunkTasks rest

/-- A request with one item of a resource list added. An item without a value and one with an
    unknown key change nothing. -/
def add (r : Resources) (item : Text) : Resources :=
  match Text.cut '=' item with
  | (_, none) => r
  | (key, some v) =>
    if key = "nodes" ∨ key = "select" then
      match Text.pieces ':' v with
      | [] => r
      | count :: qualifiers =>
        let r := { r with nodes := some count }
        match chunkTasks qualifiers with
        | some tasks => { r with tasksPerNode := some tasks }
        | none => r
    else if isTasksKey key then { r with tasksPerNode := some v }
    else if key = "walltime" then { r with wallTime := some v }
    else if key = "mem" then { r with memory := some v }
    else r

/-- A request with a whole resource list added. -/
def addList (r : Resources) (list : Text) : Resources := (Text.pieces ',' list).foldl add r

end Resources

end ClusterPrep.Batch
