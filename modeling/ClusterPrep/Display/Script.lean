import ClusterPrep.Batch.Script
import ClusterPrep.Display.Styled

set_option autoImplicit false

/-
  A Slurm script with its directives, its comments and what was not carried over made visible.
-/
namespace ClusterPrep.Display

/-- The style of a script line. -/
def lineStyle (line : Text) : String :=
  if Batch.unrecognizedSuffix.isSuffixOf line then "bold red"
  else if Batch.slurmMarker.isPrefixOf line then "bold cyan"
  else if ("#" : Text).isPrefixOf (line.dropWhile Text.isBlank) then "dim"
  else ""

/-- The text with lines added, line feeds between them. -/
def appendLines (t : Styled) : List Text → Styled
  | [] => t
  | [l] => t.append l (lineStyle l)
  | l :: rest => appendLines ((t.append l (lineStyle l)).append "\n" "") rest

/-- A script with styles. -/
def script (s : Text) : Styled := appendLines {} (Text.lines s)

end ClusterPrep.Display
