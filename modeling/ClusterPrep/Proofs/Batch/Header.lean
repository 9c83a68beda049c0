import ClusterPrep.Proofs.Batch.Options

set_option autoImplicit false

/-
  The layout of a converted script: the interpreter, the Slurm lines, and after an empty line the
  rest. Nothing that a directive holds can break its Slurm line or end the header early, and no line
  of a converted script is a directive for PBS.
-/
namespace ClusterPrep.Batch

/-- The lines of a script that are no directive lines, with the variables renamed. -/
def renamedBody (script : Text) : Text := Text.unlines ((bodyLines script).map renameVariables)

/-! ### Directive lines -/

/-- A directive line begins with the marker, blanks before it aside. -/
theorem isDirectiveLine_iff {line : Text} :
    isDirectiveLine line = true ↔
      ∃ margin, (∀ c ∈ margin, Text.isBlank c = true) ∧ margin ++ pbsMarker <+: line := by
  rw [isDirectiveLine, List.isPrefixOf_iff_prefix]
  constructor
  · intro begins
    refine ⟨line.takeWhile Text.isBlank, fun c member => List.mem_takeWhile_imp member, ?_⟩
    have kept : pbsMarker <+: line.dropWhile Text.isBlank :=
      begins.trans (Text.dropRightWhile_prefix _ _)
    have joined := (List.prefix_append_right_inj (line.takeWhile Text.isBlank)).mpr kept
    rwa [List.takeWhile_append_dropWhile] at joined
  · rintro ⟨margin, blank, rest, rfl⟩
    have front : (margin ++ pbsMarker ++ rest).dropWhile Text.isBlank = pbsMarker ++ rest := by
      rw [List.append_assoc, List.dropWhile_append_of_pos blank]
      rfl
    rw [Text.strip, Text.trimWhile, front]
    by_cases stays : ∃ c ∈ rest, Text.isBlank c = false
    · rw [Text.dropRightWhile_append_of_exists _ stays]
      exact List.prefix_append _ _
    · have all : ∀ c ∈ rest, Text.isBlank c = true := by simpa using stays
      rw [Text.dropRightWhile_append_of_forall _ all]
      decide

/-- What begins with a directive line is one as a whole. -/
theorem isDirectiveLine_of_begins {line longer : Text} (begins : line <+: longer)
    (directive : isDirectiveLine line = true) : isDirectiveLine longer = true := by
  obtain ⟨margin, blank, starts⟩ := isDirectiveLine_iff.mp directive
  exact isDirectiveLine_iff.mpr ⟨margin, blank, starts.trans begins⟩

theorem IsOption.not_isDirectiveLine {line : Text} (option : IsOption line) :
    isDirectiveLine line = false := by
  obtain ⟨rest, rfl⟩ := option.begins
  refine Bool.eq_false_iff.mpr fun directive => ?_
  obtain ⟨margin, blank, starts⟩ := isDirectiveLine_iff.mp directive
  cases margin with
  | nil =>
      -- The markers of the two systems differ in their second character.
      have second := starts.getElem (i := 1) (by decide)
      revert second
      simp [pbsMarker, Text.ofString, Text.ofChars]
  | cons c margin =>
      have first : c = '#' := (List.cons_prefix_cons.mp starts).1
      have clear := blank c List.mem_cons_self
      rw [first] at clear
      revert clear
      decide

/-! ### Variables -/

/-- The texts are the same up to their first dollar sign, if they have one. -/
structure AlikeToDollar (s t : Text) : Prop where
  front : s.takeWhile (· ≠ .char '$') = t.takeWhile (· ≠ .char '$')
  dollar : .char '$' ∈ s ↔ .char '$' ∈ t

theorem AlikeToDollar.symm {s t : Text} (alike : AlikeToDollar s t) : AlikeToDollar t s :=
  ⟨alike.front.symm, alike.dollar.symm⟩

theorem AlikeToDollar.trans {s t u : Text} (first : AlikeToDollar s t)
    (second : AlikeToDollar t u) : AlikeToDollar s u :=
  ⟨first.front.trans second.front, first.dollar.trans second.dollar⟩

theorem AlikeToDollar.cons {s t : Text} (alike : AlikeToDollar s t) (c : CodePoint) :
    AlikeToDollar (c :: s) (c :: t) := by
  constructor
  · rw [List.takeWhile_cons, List.takeWhile_cons, alike.front]
  · rw [List.mem_cons, List.mem_cons, alike.dollar]

/-- What replaces a name and the name begin with the dollar sign, so that all before it stays. -/
theorem alike_replaceAll (old new s : Text) :
    AlikeToDollar (Text.replaceAll ('$' :: old) ('$' :: new) s) s := by
  rw [Text.replaceAll]
  induction s with
  | nil => exact ⟨rfl, Iff.rfl⟩
  | cons c s ih =>
      rw [Text.replaceFrom]
      split
      · rename_i occurs
        have first : c = '$' := by
          have begins := List.isPrefixOf_iff_prefix.mp occurs
          exact (List.cons_prefix_cons.mp begins).1.symm
        subst first
        constructor
        · rw [List.cons_append, List.takeWhile_cons, List.takeWhile_cons]
          simp
        · simp
      · exact ih.cons c

/-- Replacing brings nothing into a text but what replaces. -/
theorem mem_of_mem_replaceAll {old new s : Text} {c : CodePoint}
    (member : c ∈ Text.replaceAll old new s) : c ∈ s ∨ c ∈ new := by
  rw [Text.replaceAll] at member
  generalize 0 = k at member
  induction s generalizing k with
  | nil => cases k <;> cases member
  | cons d s ih =>
      cases k with
      | zero =>
          rw [Text.replaceFrom] at member
          split at member
          · rcases List.mem_append.mp member with member | member
            · exact Or.inr member
            · exact (ih _ member).imp_left (List.mem_cons_of_mem d)
          · rcases List.mem_cons.mp member with rfl | member
            · exact Or.inl List.mem_cons_self
            · exact (ih _ member).imp_left (List.mem_cons_of_mem d)
      | succ k => exact (ih _ member).imp_left (List.mem_cons_of_mem d)

theorem alike_renameVariables (line : Text) : AlikeToDollar (renameVariables line) line := by
  have signs : ∀ v ∈ renamings, v.1.head? = some (.char '$') ∧ v.2.head? = some (.char '$') := by
    decide
  have unchanged : AlikeToDollar line line := ⟨rfl, Iff.rfl⟩
  refine List.foldlRecOn (motive := (AlikeToDollar · line)) _ _ unchanged
    fun s alike v listed => ?_
  obtain ⟨first, second⟩ := signs v listed
  obtain ⟨old, name⟩ := List.head?_eq_some_iff.mp first
  obtain ⟨new, replacement⟩ := List.head?_eq_some_iff.mp second
  rw [name, replacement]
  exact (alike_replaceAll old new s).trans alike

theorem newline_not_mem_renameVariables {line : Text} (outside : .char '\n' ∉ line) :
    .char '\n' ∉ renameVariables line := by
  have clear : ∀ v ∈ renamings, .char '\n' ∉ v.2 := by decide
  refine List.foldlRecOn (motive := fun s : Text => .char '\n' ∉ s) _ _ outside
    fun s outside v listed member => ?_
  rcases mem_of_mem_replaceAll member with member | member
  · exact outside member
  · exact clear v listed member

/-- What makes a line a directive line is before its first dollar sign. -/
theorem isDirectiveLine_of_alike {s t : Text} (alike : AlikeToDollar s t)
    (directive : isDirectiveLine s = true) : isDirectiveLine t = true := by
  obtain ⟨margin, blank, starts⟩ := isDirectiveLine_iff.mp directive
  obtain ⟨rest, rfl⟩ := starts
  -- Neither blanks nor the marker hold the sign, so that they are all before it.
  have before : ∀ c ∈ margin ++ pbsMarker, (decide (c ≠ .char '$')) = true := by
    intro c member
    rw [decide_eq_true_eq]
    rintro rfl
    rcases List.mem_append.mp member with member | member
    · have none := blank _ member
      revert none
      decide
    · revert member
      decide
  have front := alike.front
  rw [List.takeWhile_append_of_pos before] at front
  have begins : margin ++ pbsMarker <+: t.takeWhile (· ≠ .char '$') := by
    rw [← front]
    exact List.prefix_append _ _
  exact isDirectiveLine_iff.mpr ⟨margin, blank, begins.trans (List.takeWhile_prefix _)⟩

theorem forall_blank_of_alike {s t : Text} (alike : AlikeToDollar s t)
    (blank : ∀ c ∈ s, Text.isBlank c = true) : ∀ c ∈ t, Text.isBlank c = true := by
  have outside : .char '$' ∉ s := by
    intro member
    have none := blank _ member
    revert none
    decide
  have whole {u : Text} (clear : .char '$' ∉ u) : u.takeWhile (· ≠ .char '$') = u := by
    rw [List.takeWhile_eq_self_iff]
    intro c member
    rw [decide_eq_true_eq]
    rintro rfl
    exact clear member
  have same : s = t := by
    rw [← whole outside, ← whole (mt alike.dollar.mpr outside), alike.front]
  rw [← same]
  exact blank

/-! ### Layout -/

theorem endedLines_cons (l : Text) (ls : List Text) :
    endedLines (l :: ls) = l ++ .char '\n' :: endedLines ls := by
  rw [endedLines, List.map_cons, List.flatten_cons, List.append_assoc]
  rfl

theorem lines_endedLines_append {ls : List Text} (outside : ∀ l ∈ ls, .char '\n' ∉ l) (t : Text) :
    Text.lines (endedLines ls ++ t) = ls ++ Text.lines t := by
  induction ls with
  | nil => rfl
  | cons l ls ih =>
      have first := outside l List.mem_cons_self
      have rest := ih fun m member => outside m (List.mem_cons_of_mem l member)
      rw [endedLines_cons, List.append_assoc, List.cons_append, Text.lines,
        Text.pieces_append_of_not_mem first]
      exact congrArg (l :: ·) rest

/-- Lines with nothing after them lose the blanks at their end and no line. -/
theorem lines_dropRightWhile_endedLines {ls : List Text} (nonempty : ls ≠ [])
    (outside : ∀ l ∈ ls, .char '\n' ∉ l) (visible : ∀ l ∈ ls, ∃ c ∈ l, Text.isBlank c = false) :
    Text.lines (Text.dropRightWhile Text.isBlank (endedLines ls)) = Text.trimLast ls := by
  obtain ⟨front, l, rfl⟩ := List.eq_nil_or_concat' ls |>.resolve_left nonempty
  have shown := visible l (by simp)
  have joined : endedLines (front ++ [l]) = endedLines front ++ l ++ "\n" := by
    simp [endedLines]
  rw [joined, Text.dropRightWhile_append_of_forall _ (by decide),
    Text.dropRightWhile_append_of_exists _ shown,
    lines_endedLines_append fun m member => outside m (List.mem_append_left _ member),
    Text.trimLast_concat, Text.lines, Text.pieces_of_not_mem]
  intro member
  exact outside l (by simp) ((Text.dropRightWhile_prefix _ _).subset member)

/-- A script as it is before the blanks at its end are dropped. -/
def untrimmed (script : Text) : Text :=
  endedLines (interpreter :: optionLines script) ++ .char '\n' :: renamedBody script

theorem declared_eq (script : Text) :
    declared script = Text.dropRightWhile Text.isBlank (untrimmed script) := by
  have whole : interpreter ++ "\n" ++ endedLines (optionLines script) ++ "\n" ++
      renamedBody script = untrimmed script := by
    rw [untrimmed, endedLines_cons]
    simp only [List.append_assoc]
    rfl
  have start : untrimmed script = .char '#' :: (untrimmed script).tail := rfl
  change Text.strip (interpreter ++ "\n" ++ endedLines (optionLines script) ++ "\n" ++
    renamedBody script) = _
  rw [whole, start, Text.strip_eq_dropRightWhile (by decide)]

/-- Renaming leaves the body blank or not. -/
theorem blank_renamedBody_iff (script : Text) :
    (∀ c ∈ renamedBody script, Text.isBlank c = true) ↔
      ∀ line ∈ bodyLines script, ∀ c ∈ line, Text.isBlank c = true := by
  constructor
  · intro blank line member
    apply forall_blank_of_alike (alike_renameVariables line)
    intro c inside
    exact blank c (Text.mem_joinWith_of_mem (List.mem_map_of_mem member) inside)
  · intro blank c member
    rcases Text.mem_of_mem_joinWith member with feed | ⟨renamed, listed, inside⟩
    · rw [List.mem_singleton.mp feed]
      decide
    · obtain ⟨line, found, rfl⟩ := List.mem_map.mp listed
      exact forall_blank_of_alike (alike_renameVariables line).symm (blank line found) c inside

/-- The lines of a converted script. -/
structure IsLaidOut (script converted : Text) : Prop where
  /-- Every Slurm line is whole and holds no blanks but spaces. -/
  options : ∀ line ∈ optionLines script, IsOption line
  bare : (∀ line ∈ bodyLines script, ∀ c ∈ line, Text.isBlank c = true) →
    Text.lines converted = interpreter :: Text.trimLast (optionLines script)
  full : (¬ ∀ line ∈ bodyLines script, ∀ c ∈ line, Text.isBlank c = true) →
    Text.lines converted = interpreter :: optionLines script ++
      [] :: Text.lines (Text.dropRightWhile Text.isBlank (renamedBody script))
  /-- No line is a directive any more. -/
  inert : ∀ line ∈ Text.lines converted, isDirectiveLine line = false
  request : Batch.request converted = {}

/-- A line of the header: a single line that can be seen and is no directive line. -/
structure IsHeaderLine (line : Text) : Prop where
  single : .char '\n' ∉ line
  visible : ∃ c ∈ line, Text.isBlank c = false
  inert : isDirectiveLine line = false

section

variable (script : Text)

theorem isHeaderLine_of_mem {line : Text}
    (member : line ∈ interpreter :: optionLines script) : IsHeaderLine line := by
  rcases List.mem_cons.mp member with rfl | member
  · exact ⟨by decide, ⟨'#', by decide, by decide⟩, by decide⟩
  · have option := isOption_of_mem member
    exact ⟨option.newline_not_mem, option.visible, option.not_isDirectiveLine⟩

theorem newline_not_mem_header :
    ∀ line ∈ interpreter :: optionLines script, .char '\n' ∉ line := fun _ member =>
  (isHeaderLine_of_mem script member).single

theorem lines_declared_bare
    (blank : ∀ line ∈ bodyLines script, ∀ c ∈ line, Text.isBlank c = true) :
    Text.lines (declared script) = interpreter :: Text.trimLast (optionLines script) := by
  have below : ∀ c ∈ .char '\n' :: renamedBody script, Text.isBlank c = true := by
    intro c member
    rcases List.mem_cons.mp member with rfl | member
    · decide
    · exact (blank_renamedBody_iff script).mpr blank c member
  rw [declared_eq, untrimmed, Text.dropRightWhile_append_of_forall _ below,
    lines_dropRightWhile_endedLines (List.cons_ne_nil _ _) (newline_not_mem_header script)
      fun line member => (isHeaderLine_of_mem script member).visible]
  cases optionLines script with
  | nil => decide
  | cons line rest => rfl

theorem lines_declared_full
    (filled : ¬ ∀ line ∈ bodyLines script, ∀ c ∈ line, Text.isBlank c = true) :
    Text.lines (declared script) = interpreter :: optionLines script ++
      [] :: Text.lines (Text.dropRightWhile Text.isBlank (renamedBody script)) := by
  have stays : ∃ c ∈ renamedBody script, Text.isBlank c = false := by
    rw [← blank_renamedBody_iff] at filled
    simpa using filled
  have feed : .char '\n' :: renamedBody script = [.char '\n'] ++ renamedBody script := rfl
  rw [declared_eq, untrimmed, feed, ← List.append_assoc,
    Text.dropRightWhile_append_of_exists _ stays, List.append_assoc,
    lines_endedLines_append (newline_not_mem_header script)]
  rfl

theorem not_isDirectiveLine_of_mem_renamedBody {line : Text}
    (member : line ∈ Text.lines (renamedBody script)) : isDirectiveLine line = false := by
  by_cases bodiless : bodyLines script = []
  · rw [renamedBody, bodiless] at member
    rw [List.mem_singleton.mp member]
    decide
  · have outside : ∀ l ∈ (bodyLines script).map renameVariables, .char '\n' ∉ l := by
      intro l renamed
      obtain ⟨original, found, rfl⟩ := List.mem_map.mp renamed
      exact newline_not_mem_renameVariables
        (Text.not_mem_of_mem_pieces (List.mem_of_mem_filter found))
    rw [renamedBody, Text.lines_unlines (by simpa using bodiless) outside] at member
    obtain ⟨original, found, rfl⟩ := List.mem_map.mp member
    have other : isDirectiveLine original = false := by
      simpa using (List.mem_filter.mp found).2
    refine Bool.eq_false_iff.mpr fun directive => ?_
    rw [isDirectiveLine_of_alike (alike_renameVariables original) directive] at other
    cases other

/-- No line of a converted script is a directive line: each of them begins a line of the header or
    of the renamed body. -/
theorem not_isDirectiveLine_of_mem_declared {line : Text}
    (member : line ∈ Text.lines (declared script)) : isDirectiveLine line = false := by
  rw [declared_eq] at member
  obtain ⟨whole, listed, begins⟩ :=
    Text.exists_line_of_begins (Text.dropRightWhile_prefix _ _) member
  have inert : isDirectiveLine whole = false := by
    rw [untrimmed, lines_endedLines_append (newline_not_mem_header script)] at listed
    rcases List.mem_append.mp listed with header | body
    · exact (isHeaderLine_of_mem script header).inert
    · rcases List.mem_cons.mp body with rfl | body
      · decide
      · exact not_isDirectiveLine_of_mem_renamedBody script body
  refine Bool.eq_false_iff.mpr fun directive => ?_
  rw [isDirectiveLine_of_begins begins directive] at inert
  cases inert

end

theorem request_eq_empty {script : Text}
    (inert : ∀ line ∈ Text.lines script, isDirectiveLine line = false) : request script = {} := by
  rw [request]
  refine List.foldlRecOn (motive := fun r : Resources => r = {}) _ _ rfl ?_
  intro r same line member
  rw [requestAfter, ofLine?_of_not (inert line member)]
  exact same

/-- Every converted script is laid out in this way: nothing in a directive adds a line to it or ends
    its header early. -/
theorem convert_isLaidOut {script : Text} (nonempty : script ≠ []) :
    IsLaidOut script (convert script) := by
  rw [convert_eq_declared nonempty]
  have inert : ∀ line ∈ Text.lines (declared script), isDirectiveLine line = false :=
    fun line member => not_isDirectiveLine_of_mem_declared script member
  exact {
    options := fun line member => isOption_of_mem member
    bare := lines_declared_bare script
    full := lines_declared_full script
    inert
    request := request_eq_empty inert }

/-- A name that a line separator divides, a memory size of a space and a body with a variable after
    the sign of a comment. -/
theorem convert_isLaidOut_blanks :
    let script : Text := "#PBS -N a\u2028b\r\n#$PBS_JOBID \n#PBS -l mem= ,\n\t\n"
    script ≠ [] ∧ IsLaidOut script (convert script) ∧
      Text.lines (convert script) =
        ["#!/bin/bash", "#SBATCH --job-name=a b", "#SBATCH --mem= ", "", "#$SLURM_JOB_ID"] := by
  intro script
  have spelled : script = Text.ofChars _ := Text.ofString_ofList _
  have nonempty : script ≠ [] := by
    rw [spelled]
    exact List.cons_ne_nil _ _
  have lines : Text.lines (convert script) =
      ["#!/bin/bash", "#SBATCH --job-name=a b", "#SBATCH --mem= ", "", "#$SLURM_JOB_ID"] := by
    rw [spelled]
    decide +kernel
  exact ⟨nonempty, convert_isLaidOut nonempty, lines⟩

end ClusterPrep.Batch
