import ClusterPrep.Batch.Directive
import ClusterPrep.Proofs.Text.Words

set_option autoImplicit false

/-
  What becomes of the words of a directive line. A line is told by the characters of the marker, but
  it is read as words of which the first is passed over. So nothing is lost exactly if the marker is
  a word of its own.
-/
namespace ClusterPrep.Batch

/-- The text after the marker of a directive line. -/
def afterMarker (line : Text) : Text := (Text.strip line).drop pbsMarker.length

/-- A blank or nothing at all follows the marker. -/
def MarkerAlone (line : Text) : Prop := ∀ c ∈ (afterMarker line).head?, Text.isBlank c = true

/-- A directive line of which no word after the marker is lost. -/
structure KeepsWords (line : Text) : Prop where
  none : Directive.ofLine? line = none ↔ Text.words (afterMarker line) = []
  parsed : ∀ d, Directive.ofLine? line = some d →
    Text.words (afterMarker line) = d.flag :: Text.words d.value
  /-- A flag without a Slurm form is carried over with all its words. -/
  shown : ∀ d, Directive.ofLine? line = some d → d.treatment = .unrecognized →
    ∃ option, d.slurmLine? = some option ∧ Text.words option =
      slurmMarker :: Text.words (afterMarker line) ++ Text.words unrecognizedSuffix

/-! ### The words that are held -/

/-- The words that are held by the directive of a line. -/
def heldWords (line : Text) : List Text :=
  match Directive.ofLine? line with
  | none => []
  | some d => d.flag :: Text.words d.value

theorem heldWords_of_some {line : Text} {d : Directive} (found : Directive.ofLine? line = some d) :
    heldWords line = d.flag :: Text.words d.value := by
  rw [heldWords, found]

theorem heldWords_eq_nil_iff {line : Text} :
    heldWords line = [] ↔ Directive.ofLine? line = none := by
  rw [heldWords]
  cases Directive.ofLine? line <;> simp

section

variable {line : Text} (directive : isDirectiveLine line = true)
include directive

theorem strip_eq_marker_append : Text.strip line = pbsMarker ++ afterMarker line := by
  obtain ⟨rest, whole⟩ := List.isPrefixOf_iff_prefix.mp directive
  rw [afterMarker, ← whole, List.drop_left]

/-- The first word, which begins with the marker, is passed over. -/
theorem heldWords_eq_tail :
    heldWords line = (Text.words (pbsMarker ++ afterMarker line)).tail := by
  have begins : pbsMarker.isPrefixOf (Text.strip line) = true := directive
  rw [heldWords, Directive.ofLine?, if_pos begins, ← strip_eq_marker_append directive,
    Text.words_strip, List.drop_one]
  cases held : (Text.words line).tail with
  | nil => rfl
  | cons flag rest =>
      have separate : ∀ w ∈ rest, Text.IsWord w := by
        intro w member
        have inside : w ∈ (Text.words line).tail := held ▸ List.mem_cons_of_mem flag member
        exact Text.isWord_of_mem_words (List.mem_of_mem_tail inside)
      exact congrArg (flag :: ·) (Text.words_unwords separate)

theorem isWord_flag {d : Directive} (found : Directive.ofLine? line = some d) :
    Text.IsWord d.flag := by
  have held := heldWords_eq_tail directive
  rw [heldWords_of_some found] at held
  have inside : d.flag ∈ (Text.words (pbsMarker ++ afterMarker line)).tail :=
    held ▸ List.mem_cons_self
  exact Text.isWord_of_mem_words (List.mem_of_mem_tail inside)

/-- A marker that stands alone is the word that is passed over. -/
theorem heldWords_of_alone (alone : MarkerAlone line) :
    heldWords line = Text.words (afterMarker line) := by
  rw [heldWords_eq_tail directive]
  rw [MarkerAlone] at alone
  cases rest : afterMarker line with
  | nil => decide
  | cons c rest' =>
      rw [rest] at alone
      have blank := alone c rfl
      have marker : Text.words pbsMarker = [pbsMarker] := by decide
      rw [Text.words_append_of_blank blank, Text.words_cons_of_blank blank, marker]
      rfl

/-- A word that is attached to the marker is passed over with it. -/
theorem heldWords_of_attached (attached : ¬ MarkerAlone line) :
    ∃ w, Text.words (afterMarker line) = w :: heldWords line := by
  rw [heldWords_eq_tail directive]
  rw [MarkerAlone] at attached
  cases rest : afterMarker line with
  | nil => simp [rest] at attached
  | cons c rest' =>
      have clear : Text.isBlank c = false := by simpa [rest] using attached
      obtain ⟨w, ws, found⟩ := List.exists_cons_of_ne_nil (Text.words_cons_ne_nil clear rest')
      rw [Text.words_append_of_clear (by decide) clear found, found]
      exact ⟨w, rfl⟩

end

/-! ### Lines that keep their words -/

theorem words_spaced (s t : Text) : Text.words (s ++ " " ++ t) = Text.words s ++ Text.words t := by
  rw [List.append_assoc]
  exact Text.words_append_of_blank (by decide) s t

/-- The line for a flag without a Slurm form holds the words of its directive. -/
theorem words_of_unrecognized {d : Directive} (word : Text.IsWord d.flag)
    (unrecognized : d.treatment = .unrecognized) :
    ∃ option, d.slurmLine? = some option ∧ Text.words option =
      slurmMarker :: (d.flag :: Text.words d.value) ++ Text.words unrecognizedSuffix := by
  have marker : Text.words slurmMarker = [slurmMarker] := by decide
  have raw : Text.words (Text.unwords ([d.flag, d.value].filter fun s => !s.isEmpty)) =
      d.flag :: Text.words d.value := by
    have flag := Text.words_eq_singleton word
    rw [Text.words_unwords_eq_flatMap]
    cases value : d.value with
    | nil => simp [word.1, flag]
    | cons c rest => simp [word.1, flag]
  rw [Directive.slurmLine?, unrecognized]
  refine ⟨_, rfl, ?_⟩
  rw [words_spaced, words_spaced, marker, raw]
  rfl

section

variable {line : Text} (directive : isDirectiveLine line = true)
include directive

/-- Nothing is lost if all words after the marker are held. -/
theorem keepsWords_iff_held :
    KeepsWords line ↔ heldWords line = Text.words (afterMarker line) := by
  constructor
  · intro keeps
    cases found : Directive.ofLine? line with
    | none => rw [keeps.none.mp found, heldWords_eq_nil_iff, found]
    | some d => rw [keeps.parsed d found, heldWords_of_some found]
  · intro held
    refine ⟨by rw [← held, heldWords_eq_nil_iff], fun d found => ?_, fun d found other => ?_⟩
    · rw [← held, heldWords_of_some found]
    · rw [← held, heldWords_of_some found]
      exact words_of_unrecognized (isWord_flag directive found) other

theorem not_keepsWords_of_attached (attached : ¬ MarkerAlone line) : ¬ KeepsWords line := by
  rw [keepsWords_iff_held directive]
  intro held
  obtain ⟨w, lost⟩ := heldWords_of_attached directive attached
  rw [held] at lost
  exact List.cons_ne_self w _ lost.symm

end

/-- **When a directive line keeps its words**: exactly if its marker stands alone. -/
theorem keepsWords_iff {line : Text} (directive : isDirectiveLine line = true) :
    KeepsWords line ↔ MarkerAlone line := by
  constructor
  · intro keeps
    by_contra attached
    exact not_keepsWords_of_attached directive attached keeps
  · intro alone
    exact (keepsWords_iff_held directive).mpr (heldWords_of_alone directive alone)

/-- An option that Slurm does not have, with blanks of several sorts around its words. -/
theorem keepsWords_iff_spaced :
    let line : Text := "\t#PBS\u2003-W  depend=x \t y "
    isDirectiveLine line = true ∧ MarkerAlone line ∧ KeepsWords line := by
  intro line
  have spelled : line = Text.ofChars _ := Text.ofString_ofList _
  have found : isDirectiveLine line = true ∧ ∀ c ∈ (afterMarker line).head?,
      Text.isBlank c = true := by
    rw [spelled]
    decide +kernel
  exact ⟨found.1, found.2, (keepsWords_iff found.1).mpr found.2⟩

/-- What is lost in three lines: a flag, of which the value takes the place, the only word that
    there is, and a word before an option that Slurm does not have. -/
theorem not_keepsWords_attached :
    (isDirectiveLine "#PBS-N job" = true ∧ ¬ KeepsWords "#PBS-N job") ∧
      (isDirectiveLine "#PBS-V" = true ∧ ¬ KeepsWords "#PBS-V") ∧
      isDirectiveLine "#PBS-x -W y" = true ∧ ¬ KeepsWords "#PBS-x -W y" := by
  have attached {line : Text} (directive : isDirectiveLine line = true)
      (next : (afterMarker line).head? = some (.char '-')) :
      isDirectiveLine line = true ∧ ¬ KeepsWords line := by
    refine ⟨directive, not_keepsWords_of_attached directive fun alone => ?_⟩
    have blank := alone _ next
    revert blank
    decide
  exact ⟨attached (by decide) (by decide), attached (by decide) (by decide),
    attached (by decide) (by decide)⟩

end ClusterPrep.Batch
