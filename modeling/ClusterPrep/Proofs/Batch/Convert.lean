import ClusterPrep.Batch.Script

set_option autoImplicit false

/-
  What a converted script is made of. The loop over the lines gathers three things at once; each of
  them depends on its own lines only, so that it does not matter how the lines are interleaved.
-/
namespace ClusterPrep.Batch

/-- The Slurm line that a directive line has of its own. -/
def ownLine? (line : Text) : Option Text := (Directive.ofLine? line).bind Directive.slurmLine?

/-- The directive lines of a script. -/
def directiveLines (script : Text) : List Text := (Text.lines script).filter isDirectiveLine

/-- The lines of a script that are no directive lines. -/
def bodyLines (script : Text) : List Text :=
  (Text.lines script).filter fun line => !isDirectiveLine line

/-- A text with every line ended by a line feed. -/
def endedLines (ls : List Text) : Text := (ls.map fun l : Text => l ++ "\n").flatten

/-- The Slurm script that a script declares: the lines of its directives, those of its resources,
    and the other lines with the variables renamed. -/
def declared (script : Text) : Text :=
  let options := (directiveLines script).filterMap ownLine? ++ (request script).slurmLines
  Text.strip (interpreter ++ "\n" ++ endedLines options ++ "\n" ++
    Text.unlines ((bodyLines script).map renameVariables))

/-! ### One line -/

theorem ofLine?_of_not {line : Text} (body : isDirectiveLine line = false) :
    Directive.ofLine? line = none := by
  unfold isDirectiveLine at body
  rw [Directive.ofLine?, body]
  rfl

/-- A line that asks for resources has no Slurm line of its own. -/
theorem slurmLine?_of_resources {d : Directive} (resources : d.treatment = .resources) :
    d.slurmLine? = none := by
  rw [Directive.slurmLine?, resources]

/-- What one line adds to each of the three things that are gathered. -/
theorem Gathered.add_eq (g : Gathered) (line : Text) :
    g.add line =
      { directives := g.directives ++ (ownLine? line).toList
        body := g.body ++ if isDirectiveLine line then [] else [renameVariables line]
        resources := requestAfter g.resources line } := by
  unfold Gathered.add ownLine? requestAfter
  cases directive : isDirectiveLine line with
  | false => simp [ofLine?_of_not directive]
  | true =>
      cases found : Directive.ofLine? line with
      | none => simp
      | some d =>
          by_cases resources : d.treatment = .resources
          · simp [resources, slurmLine?_of_resources resources]
          · cases own : d.slurmLine? <;> simp [resources, own]

/-! ### All lines -/

/-- What the lines add to each of the three things that are gathered. -/
theorem foldl_add (g : Gathered) (ls : List Text) :
    ls.foldl Gathered.add g =
      { directives := g.directives ++ (ls.filter isDirectiveLine).filterMap ownLine?
        body := g.body ++ (ls.filter fun line => !isDirectiveLine line).map renameVariables
        resources := ls.foldl requestAfter g.resources } := by
  induction ls generalizing g with
  | nil => simp
  | cons line ls ih =>
      rw [List.foldl_cons, ih, Gathered.add_eq]
      cases directive : isDirectiveLine line with
      | true =>
          cases own : ownLine? line <;> simp [directive, own]
      | false =>
          have own : ownLine? line = none := by
            rw [ownLine?, ofLine?_of_not directive]
            rfl
          simp [directive, own]

theorem endedLines_eq {ls : List Text} (nonempty : ls ≠ []) :
    endedLines ls = Text.unlines ls ++ "\n" := by
  induction ls with
  | nil => exact absurd rfl nonempty
  | cons l ls ih =>
      cases ls with
      | nil => simp [endedLines, Text.unlines, Text.joinWith]
      | cons m ls =>
          have tail := ih (by simp)
          have joined : Text.unlines (l :: m :: ls) = l ++ "\n" ++ Text.unlines (m :: ls) := rfl
          rw [joined, List.append_assoc, ← tail]
          rfl

theorem Gathered.script_eq (g : Gathered) :
    g.script = Text.strip (interpreter ++ "\n" ++
      endedLines (g.directives ++ g.resources.slurmLines) ++ "\n" ++ Text.unlines g.body) := by
  unfold Gathered.script
  dsimp only
  generalize g.directives ++ g.resources.slurmLines = options
  cases options with
  | nil => rw [List.isEmpty_nil, if_pos rfl, endedLines, List.map_nil, List.flatten_nil,
      List.append_nil]
  | cons line options =>
      rw [List.isEmpty_cons, if_neg Bool.false_ne_true, endedLines_eq (List.cons_ne_nil _ _)]
      simp only [List.append_assoc]

/-- Converting a script gives what the script declares. -/
theorem convert_eq_declared {script : Text} (nonempty : script ≠ []) :
    convert script = declared script := by
  have filled : ¬ script.isEmpty = true := by simpa using nonempty
  rw [convert, if_neg filled, foldl_add, Gathered.script_eq]
  simp only [List.nil_append]
  rfl

/-! ### Interleavings -/

end ClusterPrep.Batch
