import ClusterPrep.Value.Basic

set_option autoImplicit false

/-
  The content of an HPL.dat file, the input of the Linpack benchmark: ten single values and ten
  lists. The fields are as loose as the files they come from; `Hpl.problems` says what is wrong
  with them.
-/
namespace ClusterPrep.Hpl

/-- The fields with a single value. -/
inductive Single
  | outFile | outDevice | pmap | threshold | swap | swappingThreshold | l1 | u | equilibration
  | alignment
deriving DecidableEq, Repr

/-- The fields with a list of values. -/
inductive Multi
  | ns | nbs | ps | qs | pfacts | nbmins | ndivs | rfacts | bcasts | depths
deriving DecidableEq, Repr

/-- The content of an HPL.dat file. The defaults are those of the benchmark's sample file. -/
structure Config where
  outFile : Value := .text "HPL.out"
  outDevice : Value := .int 6
  ns : List Value := [.int 29000]
  nbs : List Value := [.int 128]
  pmap : Value := .int 0
  ps : List Value := [.int 2]
  qs : List Value := [.int 2]
  threshold : Value := .real (Binary64.ofInt 16)
  pfacts : List Value := [.int 2]
  nbmins : List Value := [.int 4]
  ndivs : List Value := [.int 2]
  rfacts : List Value := [.int 1]
  bcasts : List Value := [.int 1]
  depths : List Value := [.int 1]
  swap : Value := .int 2
  swappingThreshold : Value := .int 64
  l1 : Value := .int 0
  u : Value := .int 0
  equilibration : Value := .int 1
  alignment : Value := .int 8

instance : Inhabited Config := ⟨{}⟩

/-- The value of a single field. -/
def Config.single (c : Config) : Single → Value
  | .outFile => c.outFile
  | .outDevice => c.outDevice
  | .pmap => c.pmap
  | .threshold => c.threshold
  | .swap => c.swap
  | .swappingThreshold => c.swappingThreshold
  | .l1 => c.l1
  | .u => c.u
  | .equilibration => c.equilibration
  | .alignment => c.alignment

/-- The values of a list field. -/
def Config.multi (c : Config) : Multi → List Value
  | .ns => c.ns
  | .nbs => c.nbs
  | .ps => c.ps
  | .qs => c.qs
  | .pfacts => c.pfacts
  | .nbmins => c.nbmins
  | .ndivs => c.ndivs
  | .rfacts => c.rfacts
  | .bcasts => c.bcasts
  | .depths => c.depths

/-- The configuration with a single field set. -/
def Config.setSingle (c : Config) (v : Value) : Single → Config
  | .outFile => { c with outFile := v }
  | .outDevice => { c with outDevice := v }
  | .pmap => { c with pmap := v }
  | .threshold => { c with threshold := v }
  | .swap => { c with swap := v }
  | .swappingThreshold => { c with swappingThreshold := v }
  | .l1 => { c with l1 := v }
  | .u => { c with u := v }
  | .equilibration => { c with equilibration := v }
  | .alignment => { c with alignment := v }

/-- The configuration with a list field set. -/
def Config.setMulti (c : Config) (vs : List Value) : Multi → Config
  | .ns => { c with ns := vs }
  | .nbs => { c with nbs := vs }
  | .ps => { c with ps := vs }
  | .qs => { c with qs := vs }
  | .pfacts => { c with pfacts := vs }
  | .nbmins => { c with nbmins := vs }
  | .ndivs => { c with ndivs := vs }
  | .rfacts => { c with rfacts := vs }
  | .bcasts => { c with bcasts := vs }
  | .depths => { c with depths := vs }

/-- A field of either sort. -/
inductive Field
  | single (f : Single)
  | multi (f : Multi)
deriving DecidableEq, Repr

/-- The name of a field in files. -/
def Field.key : Field → Text
  | .single .outFile => "out_file"
  | .single .outDevice => "out_device"
  | .multi .ns => "ns"
  | .multi .nbs => "nbs"
  | .single .pmap => "pmap"
  | .multi .ps => "ps"
  | .multi .qs => "qs"
  | .single .threshold => "threshold"
  | .multi .pfacts => "pfacts"
  | .multi .nbmins => "nbmins"
  | .multi .ndivs => "ndivs"
  | .multi .rfacts => "rfacts"
  | .multi .bcasts => "bcasts"
  | .multi .depths => "depths"
  | .single .swap => "swap"
  | .single .swappingThreshold => "swapping_threshold"
  | .single .l1 => "l1"
  | .single .u => "u"
  | .single .equilibration => "equilibration"
  | .single .alignment => "alignment"

/-- All fields, in the order of the file. -/
def Field.all : List Field := [
  .single .outFile, .single .outDevice, .multi .ns, .multi .nbs, .single .pmap, .multi .ps,
  .multi .qs, .single .threshold, .multi .pfacts, .multi .nbmins, .multi .ndivs, .multi .rfacts,
  .multi .bcasts, .multi .depths, .single .swap, .single .swappingThreshold, .single .l1,
  .single .u, .single .equilibration, .single .alignment]

/-- The field of a name. -/
def Field.ofKey? (key : Text) : Option Field := Field.all.find? (·.key == key)

/-- The value of a field; a list field's values as one list. -/
def Config.get (c : Config) : Field → Value
  | .single f => c.single f
  | .multi f => .list (c.multi f)

/-- The configuration with a field set. A list field takes the items of a list, and any other value
    as its only item. -/
def Config.set (c : Config) (v : Value) : Field → Config
  | .single f => c.setSingle v f
  | .multi f =>
    match v with
    | .list items => c.setMulti items f
    | v => c.setMulti [v] f

/-- The configuration of a table: unknown keys are passed over, missing ones have their default. -/
def Config.ofTable (fields : List (Text × Value)) : Config :=
  fields.foldl (fun c kv =>
    match Field.ofKey? kv.1 with
    | some f => c.set kv.2 f
    | none => c) {}

/-- The table of a configuration. -/
def Config.toTable (c : Config) : List (Text × Value) :=
  Field.all.map fun f => (f.key, c.get f)

@[simp] theorem Config.single_setSingle (c : Config) (v : Value) (f : Single) :
    (c.setSingle v f).single f = v := by
  cases f <;> rfl

theorem Config.single_setSingle_of_ne (c : Config) (v : Value) (f g : Single) (h : g ≠ f) :
    (c.setSingle v f).single g = c.single g := by
  cases f <;> cases g <;> first | rfl | exact absurd rfl h

@[simp] theorem Config.multi_setMulti (c : Config) (vs : List Value) (f : Multi) :
    (c.setMulti vs f).multi f = vs := by
  cases f <;> rfl

theorem Config.multi_setMulti_of_ne (c : Config) (vs : List Value) (f g : Multi) (h : g ≠ f) :
    (c.setMulti vs f).multi g = c.multi g := by
  cases f <;> cases g <;> first | rfl | exact absurd rfl h

@[simp] theorem Config.single_setMulti (c : Config) (vs : List Value) (f : Multi) (g : Single) :
    (c.setMulti vs f).single g = c.single g := by
  cases f <;> rfl

@[simp] theorem Config.multi_setSingle (c : Config) (v : Value) (f : Single) (g : Multi) :
    (c.setSingle v f).multi g = c.multi g := by
  cases f <;> rfl

end ClusterPrep.Hpl
