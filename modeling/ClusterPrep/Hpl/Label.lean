import ClusterPrep.Hpl.Config

set_option autoImplicit false

/-
  The names of the fields for people.
-/
namespace ClusterPrep.Hpl

/-- The name of a single field for people. -/
def Single.label : Single → String
  | .outFile => "Output file name"
  | .outDevice => "Device out"
  | .pmap => "PMAP"
  | .threshold => "Threshold"
  | .swap => "SWAP"
  | .swappingThreshold => "Swapping threshold"
  | .l1 => "L1"
  | .u => "U"
  | .equilibration => "Equilibration"
  | .alignment => "Memory alignment"

/-- The name of a list field for people. -/
def Multi.label : Multi → String
  | .ns => "Ns"
  | .nbs => "NBs"
  | .ps => "Ps"
  | .qs => "Qs"
  | .pfacts => "PFACTs"
  | .nbmins => "NBMINs"
  | .ndivs => "NDIVs"
  | .rfacts => "RFACTs"
  | .bcasts => "BCASTs"
  | .depths => "DEPTHs"

/-- The name of a field for people. -/
def Field.label : Field → String
  | .single f => f.label
  | .multi f => f.label

end ClusterPrep.Hpl
