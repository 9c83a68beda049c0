import ClusterPrep.Batch.Resources
import ClusterPrep.Text.LetterCase

set_option autoImplicit false

/-
  The directive lines of a PBS script, each a flag and a value, and what Slurm has for them.
-/
namespace ClusterPrep.Batch

/-- What begins a directive line for PBS. -/
def pbsMarker : Text := "#PBS"

/-- What follows a directive that has no Slurm form. -/
def unrecognizedSuffix : Text := "# Unrecognized PBS flag"

/-- How a flag is carried over. -/
inductive Treatment
  /-- A Slurm option takes the value as it is. -/
  | option (name : Text)
  | exportAll
  | mailEvents
  | resources
  | joinOutput
  | unrecognized
deriving DecidableEq

/-- The Slurm options that take their value unchanged. -/
def optionOfFlag? (flag : Text) : Option Text :=
  if flag = "-N" then some "job-name"
  else if flag = "-q" then some "partition"
  else if flag = "-o" then some "output"
  else if flag = "-e" then some "error"
  else if flag = "-M" then some "mail-user"
  else if flag = "-A" then some "account"
  else none

/-- The treatment of a flag. -/
def Treatment.ofFlag (flag : Text) : Treatment :=
  match optionOfFlag? flag with
  | some name => .option name
  | none =>
    if flag = "-V" then .exportAll
    else if flag = "-m" then .mailEvents
    else if flag = "-l" then .resources
    else if flag = "-j" then .joinOutput
    else .unrecognized

/-- The word for a treatment. -/
def Treatment.name : Treatment → String
  | .option _ => "direct"
  | .exportAll => "export-all"
  | .mailEvents => "mail-events"
  | .resources => "resources"
  | .joinOutput => "join-output"
  | .unrecognized => "unrecognized"

/-- A directive: its flag and the words after it. -/
structure Directive where
  flag : Text
  value : Text
deriving DecidableEq

namespace Directive

def treatment (d : Directive) : Treatment := .ofFlag d.flag

/-- Slurm's names for the events that mail is sent for. Other letters are passed on as capitals. -/
def mailTypes (value : Text) : Text :=
  if value = "a" then "FAIL"
  else if value = "b" then "BEGIN"
  else if value = "e" then "END"
  else if value = "abe" then "ALL"
  else Text.upper value

/-- The Slurm line of a directive. Resources and joined output have none of their own. -/
def slurmLine? (d : Directive) : Option Text :=
  match d.treatment with
  | .option name => some (slurmMarker ++ " --" ++ name ++ "=" ++ d.value)
  | .exportAll => some (slurmMarker ++ " --export=ALL")
  | .mailEvents => some (slurmMarker ++ " --mail-type=" ++ mailTypes d.value)
  | .unrecognized =>
    let raw := Text.unwords ([d.flag, d.value].filter fun s => !s.isEmpty)
    some (slurmMarker ++ " " ++ raw ++ " " ++ unrecognizedSuffix)
  | .resources | .joinOutput => none

/-- The directive of a line, unless it is no directive line or holds no flag. -/
def ofLine? (line : Text) : Option Directive :=
  if pbsMarker.isPrefixOf (Text.strip line) then
    match (Text.words line).drop 1 with
    | [] => none
    | flag :: rest => some ⟨flag, Text.unwords rest⟩
  else none

end Directive

/-- Whether a line is a directive line, with a flag or without. -/
def isDirectiveLine (line : Text) : Bool := pbsMarker.isPrefixOf (Text.strip line)

end ClusterPrep.Batch
