import ClusterPrep.Preset.Store

set_option autoImplicit false

/-
  The presets that every user begins with.
-/
namespace ClusterPrep.Preset

private def ints (is : List Int) : List Value := is.map .int

/-- The presets to begin with. -/
def builtin : List (Text × Hpl.Config) := [
  ("HPL Defaults", {}),
  ("Quick Smoke Test", { ns := ints [5000], nbs := ints [128], ps := ints [1], qs := ints [1] }),
  ("Single Node 16 Ranks",
    { ns := ints [40000], nbs := ints [192], ps := ints [4], qs := ints [4] }),
  ("Block Size Sweep",
    { ns := ints [29000], nbs := ints [128, 192, 256], ps := ints [2], qs := ints [2] }),
  ("Panel Factorization Sweep",
    { pfacts := ints [0, 1, 2], rfacts := ints [0, 1, 2], bcasts := ints [1, 2] })]

/-- The store with the presets to begin with, if it holds none yet. -/
def Store.seed (store : Store) : Attempt Store :=
  if store.names.isEmpty then
    builtin.foldlM (fun s nc => return (← s.save nc.1 nc.2).1) store
  else return store

end ClusterPrep.Preset
