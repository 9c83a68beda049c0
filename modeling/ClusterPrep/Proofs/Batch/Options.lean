import ClusterPrep.Proofs.Batch.Convert
import ClusterPrep.Proofs.Batch.Requests
import ClusterPrep.Proofs.Text.Plain

set_option autoImplicit false

/-
  The Slurm lines of a converted script. Directives hold words of their lines, and resources parts
  of those words, so that spaces are the only blanks that reach a Slurm line.
-/
namespace ClusterPrep.Batch

/-- The Slurm lines of a script: those of its directives and then those of its resources. -/
def optionLines (script : Text) : List Text :=
  (directiveLines script).filterMap ownLine? ++ (request script).slurmLines

/-- A line with an option for Slurm, which holds no blanks but spaces. -/
structure IsOption (line : Text) : Prop where
  begins : Text.ofString "#SBATCH " <+: line
  plain : line.IsPlain

namespace IsOption

variable {line rest : Text}

theorem append (option : IsOption line) (plain : rest.IsPlain) : IsOption (line ++ rest) :=
  ⟨option.begins.trans (List.prefix_append _ _), option.plain.append plain⟩

theorem newline_not_mem (option : IsOption line) : .char '\n' ∉ line :=
  option.plain.newline_not_mem

theorem visible (option : IsOption line) : ∃ c ∈ line, Text.isBlank c = false :=
  ⟨'#', option.begins.subset (by decide), by decide⟩

end IsOption

/-! ### Directives -/

/-- A Slurm option with a value, as directives and resources alike write it. -/
theorem isOption_valued {name value : Text} (plainName : name.IsPlain) (plain : value.IsPlain) :
    IsOption (slurmMarker ++ " --" ++ name ++ "=" ++ value) := by
  have start : IsOption (slurmMarker ++ " --") := ⟨by decide, by decide⟩
  exact ((start.append plainName).append (by decide)).append plain

theorem isPlain_of_option {d : Directive} {name : Text} (treated : d.treatment = .option name) :
    name.IsPlain := by
  rw [Directive.treatment, Treatment.ofFlag] at treated
  split at treated
  · rename_i found
    cases treated
    unfold optionOfFlag? at found
    repeat' split at found
    all_goals cases found
    all_goals decide
  · repeat' split at treated
    all_goals cases treated

/-- The words of a directive are words of its line. -/
theorem isPlain_of_ofLine? {line : Text} {d : Directive} (found : Directive.ofLine? line = some d) :
    d.flag.IsPlain ∧ d.value.IsPlain := by
  rw [Directive.ofLine?] at found
  split at found
  · split at found
    · cases found
    · rename_i flag rest words
      cases found
      have each : ∀ w ∈ flag :: rest, Text.IsPlain w := by
        intro w member
        rw [← words] at member
        exact .of_isWord (Text.isWord_of_mem_words (List.mem_of_mem_drop member))
      exact ⟨each flag List.mem_cons_self,
        .unwords fun w member => each w (List.mem_cons_of_mem flag member)⟩
  · cases found

theorem isPlain_mailTypes {value : Text} (plain : value.IsPlain) :
    (Directive.mailTypes value).IsPlain := by
  unfold Directive.mailTypes
  repeat' split
  all_goals first | exact plain.upper | decide

theorem isOption_of_ownLine? {line option : Text} (own : ownLine? line = some option) :
    IsOption option := by
  obtain ⟨d, found, written⟩ := Option.bind_eq_some_iff.mp own
  obtain ⟨flag, value⟩ := isPlain_of_ofLine? found
  rw [Directive.slurmLine?] at written
  split at written
  · rename_i name treated
    cases written
    exact isOption_valued (isPlain_of_option treated) value
  · cases written
    exact ⟨by decide, by decide⟩
  · cases written
    have start : IsOption (slurmMarker ++ " --mail-type=") := ⟨by decide, by decide⟩
    exact start.append (isPlain_mailTypes value)
  · cases written
    have start : IsOption (slurmMarker ++ " ") := ⟨by decide, by decide⟩
    have raw : (Text.unwords ([d.flag, d.value].filter fun s => !s.isEmpty)).IsPlain := by
      apply Text.IsPlain.unwords
      intro w member
      have either := List.mem_of_mem_filter member
      simp only [List.mem_cons, List.not_mem_nil, or_false] at either
      rcases either with rfl | rfl
      · exact flag
      · exact value
    exact ((start.append raw).append (by decide)).append (by decide)
  · cases written
  · cases written

/-! ### Resources -/

/-- Spaces are the only blanks in what is asked for. -/
structure Resources.IsPlain (r : Resources) : Prop where
  nodes : ∀ v ∈ r.nodes, v.IsPlain
  tasksPerNode : ∀ v ∈ r.tasksPerNode, v.IsPlain
  wallTime : ∀ v ∈ r.wallTime, v.IsPlain
  memory : ∀ v ∈ r.memory, v.IsPlain

theorem Resources.isPlain_iff_get {r : Resources} :
    r.IsPlain ↔ ∀ a, ∀ v ∈ r.get a, v.IsPlain := by
  constructor
  · rintro ⟨nodes, tasksPerNode, wallTime, memory⟩ a
    cases a <;> assumption
  · intro plain
    exact ⟨plain .nodes, plain .tasksPerNode, plain .wallTime, plain .memory⟩

/-- One item of a request asks for nothing but what it holds. -/
theorem Resources.IsPlain.add {r : Resources} {item : Text} (kept : r.IsPlain)
    (plain : item.IsPlain) : (r.add item).IsPlain := by
  rw [isPlain_iff_get] at kept ⊢
  intro a v held
  rcases writes_or_of_get_add held with writes | before
  · exact plain.of_subset writes.subset
  · exact kept a v before

theorem isPlain_request (script : Text) : (request script).IsPlain := by
  have each (r : Resources) (line : Text) (kept : r.IsPlain) : (requestAfter r line).IsPlain := by
    rw [requestAfter]
    split
    · rename_i d found
      split
      · have items : ∀ item ∈ Text.pieces ',' d.value, Text.IsPlain item := fun item member =>
          (isPlain_of_ofLine? found).2.of_subset
            fun c inside => Text.mem_of_mem_pieces member inside
        exact List.foldlRecOn _ _ kept fun r kept item member => kept.add (items item member)
      · exact kept
    · exact kept
  have empty : ({} : Resources).IsPlain := by constructor <;> rintro _ ⟨⟩
  exact List.foldlRecOn _ _ empty fun r kept line _ => each r line kept

theorem isOption_of_mem_slurmLine {name line : Text} {v : Option Text} (plainName : name.IsPlain)
    (plain : ∀ w ∈ v, Text.IsPlain w) (member : line ∈ Resources.slurmLine name v) :
    IsOption line := by
  unfold Resources.slurmLine at member
  split at member
  · cases member
  · cases member
  · rw [List.mem_singleton.mp member]
    exact isOption_valued plainName (plain _ rfl)

/-- Every Slurm line of a converted script is an option. -/
theorem isOption_of_mem {script line : Text} (member : line ∈ optionLines script) :
    IsOption line := by
  rcases List.mem_append.mp member with own | asked
  · obtain ⟨directive, -, written⟩ := List.mem_filterMap.mp own
    exact isOption_of_ownLine? written
  · have plain := isPlain_request script
    simp only [Resources.slurmLines, List.mem_append] at asked
    rcases asked with ((asked | asked) | asked) | asked
    · exact isOption_of_mem_slurmLine (by decide) plain.nodes asked
    · exact isOption_of_mem_slurmLine (by decide) plain.tasksPerNode asked
    · exact isOption_of_mem_slurmLine (by decide) plain.wallTime asked
    · exact isOption_of_mem_slurmLine (by decide) plain.memory asked

end ClusterPrep.Batch
