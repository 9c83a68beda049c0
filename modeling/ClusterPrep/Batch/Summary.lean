import ClusterPrep.Batch.Resources
import ClusterPrep.Quantity.Memory
import ClusterPrep.Quantity.Walltime

set_option autoImplicit false

/-
  A request for resources in one line.
-/
namespace ClusterPrep.Batch

/-- A part about a request that is set, unless it is empty. -/
def partIfSet (v : Option Text) (part : Text → Attempt Text) : Attempt (List Text) :=
  match v with
  | none | some [] => return []
  | some s => return [← part s]

/-- A part, or the remark that its value is not understood. -/
def understood (what : String) (s : Text) (part : Attempt Text) : Attempt Text := do
  match ← part.unlessBadValue with
  | some t => return t
  | none => return "! " ++ what ++ " " ++ Text.quoted s ++ " not understood"

/-- The summary of a request. -/
def Resources.summary (r : Resources) : Attempt Text := do
  let nodes ← partIfSet r.nodes fun s => return s ++ " node(s)"
  let tasks ← partIfSet r.tasksPerNode fun s => return s ++ " task(s)/node"
  let total ← match r.totalTasks with
    | some n => do pure [(← Numeral.writeInt n) ++ (" task(s) total" : Text)]
    | none => pure []
  let time ← partIfSet r.wallTime fun s => understood "walltime" s do
    return "walltime " ++ (← Walltime.write (← Walltime.read s))
  let memory ← partIfSet r.memory fun s => understood "mem" s do
    return "mem " ++ (← Numeral.writeInt (← Memory.read s)) ++ " MB"
  let parts := nodes ++ tasks ++ total ++ time ++ memory
  if parts.isEmpty then return "No resource requests found"
  return Text.joinWith " · " parts

end ClusterPrep.Batch
