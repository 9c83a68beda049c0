import ClusterPrep.Hpl.Reader
import ClusterPrep.Hpl.Writer
import ClusterPrep.Proofs.Hpl.Fields
import ClusterPrep.Proofs.Hpl.Token

set_option autoImplicit false

/-
  The lines of an HPL.dat file that is written. Every line begins with the words of its values and
  goes on with a label; none is blank and none is divided, so that all of them are found again.
-/
namespace ClusterPrep.Hpl

open Numeral Text

/-! ### Configurations whose values are words -/

/-- A value that is written as one word: a whole number that is not too long, a real, or a text
    without blanks. -/
def HasWord : Value → Prop
  | .int i => (ofNat i.natAbs).length ≤ maxDigits
  | .real _ => True
  | .text s => IsWord s
  | _ => False

/-- The name of the output file: none, or a text without blanks. -/
def IsFileName : Value → Prop
  | .null => True
  | .text s => ∀ c ∈ s, isBlank c = false
  | _ => False

/-- A configuration whose values are all written as words. -/
structure Config.Worded (c : Config) : Prop where
  outFile : IsFileName c.outFile
  single : ∀ f, f ≠ .outFile → c.single f = .null ∨ HasWord (c.single f)
  multi : ∀ f, ∀ v ∈ c.multi f, HasWord v

/-- The value, or another one if it is missing. -/
def orElse (v other : Value) : Value :=
  match v with
  | .null => other
  | v => v

/-- The configuration with the default for every single value that is missing, and for an output
    file without a name. -/
def Config.completed (c : Config) : Config :=
  { c with
    outFile := if c.outFile.isSet then c.outFile else ({} : Config).outFile
    outDevice := orElse c.outDevice ({} : Config).outDevice
    pmap := orElse c.pmap ({} : Config).pmap
    threshold := orElse c.threshold ({} : Config).threshold
    swap := orElse c.swap ({} : Config).swap
    swappingThreshold := orElse c.swappingThreshold ({} : Config).swappingThreshold
    l1 := orElse c.l1 ({} : Config).l1
    u := orElse c.u ({} : Config).u
    equilibration := orElse c.equilibration ({} : Config).equilibration
    alignment := orElse c.alignment ({} : Config).alignment }

@[simp] theorem Config.multi_completed (c : Config) (f : Multi) :
    c.completed.multi f = c.multi f := by
  cases f <;> rfl

theorem Config.single_completed (c : Config) {f : Single} (other : f ≠ .outFile) :
    c.completed.single f = orElse (c.single f) (({} : Config).single f) := by
  cases f <;> first | rfl | exact absurd rfl other

theorem orElse_of_ne_null {v : Value} (present : v ≠ .null) (other : Value) :
    orElse v other = v := by
  cases v <;> first | rfl | exact absurd rfl present

/-- Only the output file is completed if no other value is missing. -/
theorem Config.completed_eq {c : Config} (present : ∀ f, f ≠ .outFile → c.single f ≠ .null)
    (named : c.outFile = .null ∨ c.outFile.isSet = true) :
    c.completed = { c with outFile := orElse c.outFile ({} : Config).outFile } := by
  change c.completed = c.setSingle (orElse c.outFile ({} : Config).outFile) .outFile
  apply Config.ext_get
  intro f
  cases f with
  | multi f => rw [Config.get, Config.get, multi_completed, multi_setSingle]
  | single f =>
      rw [Config.get, Config.get]
      by_cases file : f = .outFile
      · subst file
        rw [single_setSingle]
        rcases named with missing | set
        · simp [completed, Config.single, missing, Value.isSet, orElse]
        · have there : c.outFile ≠ .null := by
            intro missing
            rw [missing] at set
            cases set
          simp [completed, Config.single, set, orElse_of_ne_null there]
      · rw [Config.single_completed c file, c.single_setSingle_of_ne _ _ _ file,
          orElse_of_ne_null (present f file)]

/-! ### Values and their words -/

/-- The word of a number or a name. -/
def wordOf : Value → Text
  | .int i => ofInt i
  | .real x => x.text
  | .text s => s
  | _ => []

/-- The text of a real is a word, also that of one without a numeral. -/
theorem isWord_realText (x : Binary64) : IsWord x.text := by
  cases x with
  | nan =>
      change IsWord "nan"
      unfold IsWord
      decide
  | inf neg =>
      have name : IsWord (if neg then "-inf" else "inf") := by
        unfold IsWord
        cases neg <;> decide
      cases neg <;> exact name
  | finite neg m p normal => exact isWord_text rfl

section

variable {v : Value} (worded : HasWord v)
include worded

theorem shown_of_hasWord : v.shown = .ok (wordOf v) := by
  cases v with
  | int i => exact writeInt_eq_ok i worded
  | real x => rfl
  | text s => rfl
  | _ => exact absurd worded id

theorem isWord_wordOf : IsWord (wordOf v) := by
  cases v with
  | int i => exact isWord_ofInt i
  | real x => exact isWord_realText x
  | text s => exact worded
  | _ => exact absurd worded id

end

/-! ### Lines -/

/-- A line that is found again: it has a word, and no line feed divides it. -/
def IsLine (l : Text) : Prop := words l ≠ [] ∧ .char '\n' ∉ l

theorem words_labelled (value label : Text) :
    words (labelled value label) = words value ++ words label := by
  have padding (n : Nat) : words (value ++ copies n ' ') = words value := by
    cases n with
    | zero => rw [copies, List.replicate_zero, List.append_nil]
    | succ n =>
        have blanks := words_copies_append n []
        rw [List.append_nil] at blanks
        rw [copies, List.replicate_succ, words_append_of_blank (by decide), ← copies, blanks,
          words_nil, List.append_nil]
  have space : Text.ofString " " = [.char ' '] := rfl
  rw [labelled, padRight, List.append_assoc, space, List.singleton_append,
    words_append_of_blank (by decide), padding]

theorem isLine_labelled {value label : Text} (one : .char '\n' ∉ value) (line : IsLine label) :
    IsLine (labelled value label) := by
  constructor
  · rw [words_labelled]
    simp [line.1]
  · have space : .char '\n' ∉ Text.ofString " " := by decide
    have padding (n : Nat) : .char '\n' ∉ copies n ' ' := by
      intro member
      exact absurd (List.eq_of_mem_replicate member) (by decide)
    simp [labelled, padRight, one, line.2, space, padding]

/-- Lines with words are all found again, without the blanks around them. -/
theorem usableLines_unlines {ls : List Text} (nonempty : ls ≠ []) (each : ∀ l ∈ ls, IsLine l) :
    usableLines (unlines ls) = ls.map strip := by
  rw [usableLines, lines_unlines nonempty fun l member => (each l member).2]
  apply List.filter_eq_self.mpr
  intro l member
  obtain ⟨line, inside, rfl⟩ := List.mem_map.mp member
  simpa using strip_ne_nil (each line inside).1

/-! ### The lines of a place -/

/-- The labels of a place. -/
def Entry.labels : Entry → List Text
  | .single _ label => [label]
  | .multi _ countLabel valuesLabel => [countLabel, valuesLabel]
  | .grids countLabel psLabel qsLabel => [countLabel, psLabel, qsLabel]

/-- The line of a list: its items, then the label. -/
def valuesLine (vs : List Value) (label : Text) : Text :=
  labelled (unwords (vs.map wordOf)) label

/-- The lines that a place has when all its values have words. -/
def linesOf (c : Config) : Entry → List Text
  | .single f label => [labelled (wordOf (c.completed.single f)) label]
  | .multi f countLabel valuesLabel =>
    [labelled (countText (c.multi f)) countLabel, valuesLine (c.multi f) valuesLabel]
  | .grids countLabel psLabel qsLabel =>
    [labelled (countText c.ps) countLabel, valuesLine c.ps psLabel, valuesLine c.qs qsLabel]

/-- The lines of the file, without the blanks around them. -/
def fileLines (c : Config) : List Text :=
  (header ++ (schema.map (linesOf c)).flatten).map strip

theorem isLine_header : ∀ l ∈ header, IsLine l := by
  unfold IsLine
  decide +kernel

theorem isLine_label : ∀ e ∈ schema, ∀ l ∈ e.labels, IsLine l := by
  unfold IsLine
  decide +kernel

theorem hasWord_default {f : Single} (other : f ≠ .outFile) :
    HasWord (({} : Config).single f) := by
  cases f with
  | outFile => exact absurd rfl other
  | threshold => trivial
  | _ =>
      simp only [Config.single, HasWord]
      decide

namespace Config.Worded

variable {c : Config} (worded : c.Worded)
include worded

/-- There is a name for the output file, which is the one that is written. -/
theorem outFile_completed : ∃ s, c.completed.outFile = .text s ∧ IsWord s ∧
    outFileText c.outFile = .ok s := by
  have name := worded.outFile
  have standard : IsWord (Text.ofString "HPL.out") := by
    unfold IsWord
    decide
  rw [completed, outFileText]
  dsimp only
  cases present : c.outFile with
  | null => exact ⟨_, rfl, standard, rfl⟩
  | text s =>
      rw [present] at name
      cases s with
      | nil => exact ⟨_, rfl, standard, rfl⟩
      | cons d s => exact ⟨d :: s, rfl, ⟨by simp, name⟩, rfl⟩
  | _ =>
      rw [present] at name
      exact absurd name id

theorem hasWord_completed {f : Single} (other : f ≠ .outFile) :
    HasWord (c.completed.single f) := by
  rw [Config.single_completed c other]
  rcases worded.single f other with missing | present
  · rw [missing]
    exact hasWord_default other
  · cases held : c.single f <;> rw [held] at present <;>
      first | exact present | exact absurd present id

/-- The text of a single field is the word of its value, or of its default. -/
theorem singleText_eq (f : Single) : singleText c f = .ok (wordOf (c.completed.single f)) := by
  by_cases name : f = .outFile
  · subst name
    obtain ⟨s, value, -, written⟩ := worded.outFile_completed
    have value : c.completed.single .outFile = .text s := value
    rw [singleText, if_pos rfl, written, value, wordOf]
  · have shown := shown_of_hasWord (worded.hasWord_completed name)
    rw [singleText, if_neg name, ← shown, Config.single_completed c name]
    cases c.single f <;> rfl

theorem isWord_single (f : Single) : IsWord (wordOf (c.completed.single f)) := by
  by_cases name : f = .outFile
  · subst name
    obtain ⟨s, value, word, -⟩ := worded.outFile_completed
    have value : c.completed.single .outFile = .text s := value
    rw [value]
    exact word
  · exact isWord_wordOf (worded.hasWord_completed name)

theorem shownAll_multi (f : Multi) :
    Value.shownAll (c.multi f) = .ok (unwords ((c.multi f).map wordOf)) := by
  have each := Attempt.mapM_eq_ok fun v member => shown_of_hasWord (worded.multi f v member)
  rw [Value.shownAll, each]
  rfl

/-- Every place is written on its lines. -/
theorem entryLines_eq (e : Entry) : entryLines c e = .ok (linesOf c e) := by
  cases e with
  | single f label =>
      rw [entryLines, worded.singleText_eq f]
      rfl
  | multi f countLabel valuesLabel =>
      rw [entryLines, worded.shownAll_multi f]
      rfl
  | grids countLabel psLabel qsLabel =>
      have ps : Value.shownAll c.ps = _ := worded.shownAll_multi .ps
      have qs : Value.shownAll c.qs = _ := worded.shownAll_multi .qs
      rw [entryLines, ps, qs]
      rfl

theorem isLine_linesOf {e : Entry} (labels : ∀ l ∈ e.labels, IsLine l) :
    ∀ l ∈ linesOf c e, IsLine l := by
  have count (f : Multi) {label : Text} (line : IsLine label) :
      IsLine (labelled (countText (c.multi f)) label) :=
    isLine_labelled (isWord_ofNat _).newline_not_mem line
  have values (f : Multi) {label : Text} (line : IsLine label) :
      IsLine (valuesLine (c.multi f) label) := by
    refine isLine_labelled (not_mem_unwords (by decide) ?_) line
    intro w member
    obtain ⟨v, inside, rfl⟩ := List.mem_map.mp member
    exact (isWord_wordOf (worded.multi f v inside)).newline_not_mem
  cases e with
  | single f label =>
      have line := isLine_labelled (worded.isWord_single f).newline_not_mem
        (labels label (by simp [Entry.labels]))
      simpa [linesOf] using line
  | multi f countLabel valuesLabel =>
      have first := count f (labels countLabel (by simp [Entry.labels]))
      have second := values f (labels valuesLabel (by simp [Entry.labels]))
      simpa [linesOf] using And.intro first second
  | grids countLabel psLabel qsLabel =>
      have first := count .ps (labels countLabel (by simp [Entry.labels]))
      have second := values .ps (labels psLabel (by simp [Entry.labels]))
      have third := values .qs (labels qsLabel (by simp [Entry.labels]))
      simpa [linesOf, Config.multi] using And.intro first (And.intro second third)

/-- A configuration whose values are words is written, and the lines of the file are found again
    without the blanks around them. -/
theorem usableLines_write : ∃ s, write c = .ok s ∧ usableLines s = fileLines c := by
  have places : schema.mapM (entryLines c) = .ok (schema.map (linesOf c)) :=
    Attempt.mapM_eq_ok fun e _ => worded.entryLines_eq e
  have lines : ∀ l ∈ header ++ (schema.map (linesOf c)).flatten, IsLine l := by
    intro l member
    rcases List.mem_append.mp member with member | member
    · exact isLine_header l member
    · obtain ⟨ls, inside, within⟩ := List.mem_flatten.mp member
      obtain ⟨e, place, rfl⟩ := List.mem_map.mp inside
      exact worded.isLine_linesOf (isLine_label e place) l within
  refine ⟨unlines (header ++ (schema.map (linesOf c)).flatten), ?_, ?_⟩
  · rw [write, places]
    rfl
  · exact usableLines_unlines (by simp [header]) lines

end Config.Worded

end ClusterPrep.Hpl
