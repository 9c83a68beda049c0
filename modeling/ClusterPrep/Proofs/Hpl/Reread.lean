import ClusterPrep.Proofs.Hpl.RoundTrip
import ClusterPrep.Proofs.Hpl.Slots

set_option autoImplicit false

/-
  Which configurations last when they are written and read again. A file gives numbers and words,
  and an infinite number if a numeral is too great; but the text of an infinite number is a word
  that the reader does not take for one. And one count stands for the numbers of P and of Q. So a
  configuration lasts exactly if none of its numbers is infinite and its grids are paired.
-/
namespace ClusterPrep.Hpl

open Numeral Text

/-! ### Values as files give them -/

/-- A number: a whole number that is not too long, or any real. -/
def IsFigure : Value → Prop
  | .int i => (ofNat i.natAbs).length ≤ maxDigits
  | .real _ => True
  | _ => False

/-- An item of a list as files give them: what is not a number is a word there. -/
def IsListed : Value → Prop
  | .text s => IsWord s ∧ isIntToken s = false ∧ isRealToken s = false
  | .real x => x ≠ .nan
  | v => IsFigure v

/-- A number too great for the reals. -/
def IsInfinite : Value → Prop
  | .real (.inf _) => True
  | _ => False

instance : DecidablePred IsInfinite
  | .real (.inf _) => isTrue trivial
  | .real .nan | .real (.finite ..) => isFalse id
  | .null | .bool _ | .int _ | .text _ | .moment _ | .list _ | .table _ => isFalse id

/-- A configuration with values of the kinds that files give. -/
structure Config.Legible (c : Config) : Prop where
  outFile : IsFileName c.outFile
  single : ∀ f, f ≠ .outFile → c.single f = .null ∨ IsFigure (c.single f)
  multi : ∀ f, ∀ v ∈ c.multi f, IsListed v

/-- A field without an infinite number. -/
def Field.FiniteIn (c : Config) : Field → Prop
  | .single f => ¬ IsInfinite (c.single f)
  | .multi f => ∀ v ∈ c.multi f, ¬ IsInfinite v

instance (c : Config) : DecidablePred (Field.FiniteIn c)
  | .single f => inferInstanceAs (Decidable (¬ IsInfinite (c.single f)))
  | .multi f => inferInstanceAs (Decidable (∀ v ∈ c.multi f, ¬ IsInfinite v))

/-- A configuration without an infinite number. -/
def Config.IsFinite (c : Config) : Prop := ∀ f : Field, f.FiniteIn c

instance : DecidablePred Config.IsFinite := fun c =>
  decidable_of_iff (∀ f ∈ Field.all, f.FiniteIn c)
    ⟨fun each f => each f (Field.mem_all f), fun each f _ => each f⟩

/-- What makes a configuration last. -/
structure Config.Lasting (c : Config) : Prop where
  finite : c.IsFinite
  grids : c.ps.length = c.qs.length
  length : ∀ f, (ofNat (c.multi f).length).length ≤ maxDigits

section

variable {v : Value}

theorem IsFigure.hasWord (figure : IsFigure v) : HasWord v := by
  cases v <;> first | exact figure | exact absurd figure id

theorem IsListed.hasWord (listed : IsListed v) : HasWord v := by
  cases v with
  | int i => exact listed
  | real x => trivial
  | text s => exact listed.1
  | _ => exact absurd listed id

/-- A number on a line of its own is read again unless it is infinite. -/
theorem numberValue_wordOf_iff (figure : IsFigure v) :
    numberValue (wordOf v) = .ok v ↔ ¬ IsInfinite v := by
  cases v with
  | int i => exact iff_of_true (numberValue_wordOf figure) id
  | real x =>
      cases x with
      | nan => exact iff_of_true rfl id
      | inf neg =>
          have lost : numberValue (wordOf (.real (.inf neg))) = .ok (.real .nan) := by
            cases neg <;> rfl
          simp [lost, IsInfinite]
      | finite neg m p normal => exact iff_of_true (numberValue_wordOf rfl) id
  | _ => exact absurd figure id

/-- A value in a list is read again unless it is infinite. -/
theorem tokenValue_wordOf_iff (listed : IsListed v) :
    tokenValue (wordOf v) = .ok v ↔ ¬ IsInfinite v := by
  cases v with
  | int i => exact iff_of_true (tokenValue_ofInt i listed) id
  | text s => exact iff_of_true (tokenValue_wordOf listed) id
  | real x =>
      cases x with
      | nan => exact absurd rfl listed
      | inf neg =>
          have lost : ∃ s, tokenValue (wordOf (.real (.inf neg))) = .ok (.text s) := by
            cases neg <;> exact ⟨_, rfl⟩
          obtain ⟨s, lost⟩ := lost
          simp [lost, IsInfinite]
      | finite neg m p normal =>
          have finite : (Binary64.finite neg m p normal).isFinite = true := rfl
          exact iff_of_true (tokenValue_text finite) id
  | _ => exact absurd listed id

end

theorem Config.Legible.worded {c : Config} (legible : c.Legible) : c.Worded where
  outFile := legible.outFile
  single f other := (legible.single f other).imp_right IsFigure.hasWord
  multi f v member := (legible.multi f v member).hasWord

/-! ### Lines read again -/

section

variable {label : Text}

theorem firstWord_labelled {w : Text} (word : IsWord w) (label : Text) :
    firstWord (some (strip (labelled w label))) = some w := by
  rw [firstWord, Option.bind_some, words_strip, words_labelled, words_eq_singleton word]
  rfl

/-- The values of a line are read again exactly if their count is right and none is infinite. With
    a count too great, a word of the label would be read, too. -/
theorem valuesOn_valuesLine_iff {vs : List Value} (listed : ∀ v ∈ vs, IsListed v)
    (line : IsLine label) {n : Nat} :
    valuesOn n (some (strip (valuesLine vs label))) = .ok vs ↔
      n = vs.length ∧ ∀ v ∈ vs, ¬ IsInfinite v := by
  have separate : ∀ w ∈ vs.map wordOf, IsWord w := by
    intro w member
    obtain ⟨v, inside, rfl⟩ := List.mem_map.mp member
    exact isWord_wordOf (listed v inside).hasWord
  have front : (vs.map wordOf ++ words label).take vs.length = vs.map wordOf := by
    rw [← List.length_map wordOf, List.take_left]
  have values : (vs.map wordOf).mapM tokenValue = .ok vs ↔ ∀ v ∈ vs, ¬ IsInfinite v := by
    rw [Attempt.mapM_eq_ok_iff, List.forall₂_map_left_iff, List.forall₂_same]
    exact forall₂_congr fun v member => tokenValue_wordOf_iff (listed v member)
  rw [valuesOn, words_strip, valuesLine, words_labelled, words_unwords separate, ← values]
  constructor
  · intro read
    have length := (Attempt.mapM_eq_ok_iff.mp read).length_eq
    have more : 0 < (words label).length := List.length_pos_iff.mpr line.1
    rw [List.length_take, List.length_append, List.length_map] at length
    have exact : n = vs.length := by omega
    rw [exact, front] at read
    exact ⟨exact, read⟩
  · rintro ⟨rfl, read⟩
    rwa [front]

theorem countOn_countText_iff {vs : List Value} {n : Nat} (label : Text) :
    countOn (some (strip (labelled (countText vs) label))) = .ok n ↔
      n = vs.length ∧ (ofNat vs.length).length ≤ maxDigits := by
  have word : IsWord (countText vs) := isWord_ofNat _
  rw [countOn, firstWord_labelled word]
  exact countValue_ofNat_eq_ok_iff

/-- The list whose length is written for a list field: that of P for both P and Q. -/
def Config.counted (c : Config) : Multi → List Value
  | .qs => c.ps
  | f => c.multi f

theorem Config.counted_of_ne (c : Config) {f : Multi} (other : f ≠ .qs) :
    c.counted f = c.multi f := by
  cases f <;> first | rfl | exact absurd rfl other

theorem listOn_iff {us vs : List Value} (listed : ∀ v ∈ vs, IsListed v) (line : IsLine label)
    (countLabel : Text) :
    listOn (some (strip (labelled (countText us) countLabel)))
        (some (strip (valuesLine vs label))) = .ok vs ↔
      (ofNat us.length).length ≤ maxDigits ∧ us.length = vs.length ∧
        ∀ v ∈ vs, ¬ IsInfinite v := by
  rw [listOn]
  cases counted : countOn (some (strip (labelled (countText us) countLabel))) with
  | error e =>
      have long : ¬ (ofNat us.length).length ≤ maxDigits := by
        intro short
        have read := (countOn_countText_iff countLabel).mpr ⟨rfl, short⟩
        rw [counted] at read
        cases read
      simp [bind, Except.bind, long]
  | ok n =>
      obtain ⟨rfl, short⟩ := (countOn_countText_iff countLabel).mp counted
      simp only [bind, Except.bind, short, true_and]
      exact valuesOn_valuesLine_iff listed line

end

/-! ### The file read again -/

section

variable (c : Config)

/-- A single field stands on the line that is its own. -/
theorem fileLines_single (f : Single) : ∃ label,
    (fileLines c)[f.line]? = some (strip (labelled (wordOf (c.completed.single f)) label)) := by
  cases f <;> exact ⟨_, rfl⟩

/-- A list field stands on the lines that are its own. -/
theorem fileLines_multi (f : Multi) : ∃ countLabel label, IsLine label ∧
    (fileLines c)[f.countLine]? = some (strip (labelled (countText (c.counted f)) countLabel)) ∧
    (fileLines c)[f.valuesLine]? = some (strip (valuesLine (c.multi f) label)) := by
  cases f <;> refine ⟨_, _, ?_, rfl, rfl⟩ <;> unfold IsLine <;> decide +kernel

theorem length_fileLines : (fileLines c).length = 31 := rfl

end

namespace Config.Legible

variable {c : Config} (legible : c.Legible)
include legible

theorem valueOn_fileLines_iff (f : Single) :
    f.valueOn (fileLines c)[f.line]? = .ok (c.completed.single f) ↔ ¬ IsInfinite (c.single f) := by
  obtain ⟨label, line⟩ := fileLines_single c f
  rw [line, Single.valueOn, firstWord_labelled (legible.worded.isWord_single f)]
  dsimp only
  by_cases name : f = .outFile
  · subst name
    obtain ⟨s, value, -, -⟩ := legible.worded.outFile_completed
    have value : c.completed.single .outFile = .text s := value
    have finite : ¬ IsInfinite c.outFile := by
      have file := legible.outFile
      cases held : c.outFile <;> rw [held] at file <;> first | exact id | exact absurd file id
    rw [if_pos rfl, value]
    exact iff_of_true rfl finite
  · rw [if_neg name, Config.single_completed c name]
    rcases legible.single f name with missing | figure
    · have default := isNumeral_default name
      rw [missing]
      exact iff_of_true (numberValue_wordOf default) id
    · have present : orElse (c.single f) (({} : Config).single f) = c.single f := by
        cases held : c.single f <;> rw [held] at figure <;> first | rfl | exact absurd figure id
      rw [present]
      exact numberValue_wordOf_iff figure

theorem listOn_fileLines_iff (f : Multi) :
    listOn (fileLines c)[f.countLine]? (fileLines c)[f.valuesLine]? = .ok (c.multi f) ↔
      (ofNat (c.counted f).length).length ≤ maxDigits ∧
        (c.counted f).length = (c.multi f).length ∧ ∀ v ∈ c.multi f, ¬ IsInfinite v := by
  obtain ⟨countLabel, label, line, count, values⟩ := fileLines_multi c f
  rw [count, values]
  exact listOn_iff (legible.multi f) line countLabel

/-- The lines of the file hold the configuration exactly if it lasts. -/
theorem ofLines_fileLines_iff : Config.ofLines (fileLines c) = .ok c.completed ↔ c.Lasting := by
  simp only [Config.ofLines_eq_ok_iff, Config.multi_completed, legible.valueOn_fileLines_iff,
    legible.listOn_fileLines_iff]
  constructor
  · rintro ⟨single, multi⟩
    refine ⟨fun f => ?_, (multi .qs).2.1, fun f => ?_⟩
    · cases f with
      | single f => exact single f
      | multi f => exact (multi f).2.2
    · have short := (multi f).1
      rwa [(multi f).2.1] at short
  · intro lasting
    refine ⟨fun f => lasting.finite (.single f), fun f => ?_⟩
    have finite : ∀ v ∈ c.multi f, ¬ IsInfinite v := lasting.finite (.multi f)
    by_cases shared : f = .qs
    · subst shared
      exact ⟨lasting.length .ps, lasting.grids, finite⟩
    · rw [c.counted_of_ne shared]
      exact ⟨lasting.length f, rfl, finite⟩

/-- **What lasts in a file.** A configuration with values as files give them is written; what is
    read of it is the same configuration, with the default where a value was missing, exactly if
    no number is infinite and the grids are paired. -/
theorem read_write_iff :
    ∃ s, write c = .ok s ∧ (read s = .ok (some c.completed) ↔ c.Lasting) := by
  obtain ⟨s, written, found⟩ := legible.worded.usableLines_write
  refine ⟨s, written, ?_⟩
  rw [read_eq_ok_iff, found, length_fileLines, ← legible.ofLines_fileLines_iff]
  simp

end Config.Legible

/-! ### Values that were read -/

section

variable {w : Text} {v : Value}

theorem isListed_of_tokenValue (word : IsWord w) (read : tokenValue w = .ok v) : IsListed v := by
  rw [tokenValue] at read
  split at read
  · cases value : readInt w with
    | error e =>
        rw [value] at read
        cases read
    | ok i =>
        rw [value] at read
        cases read
        exact length_ofNat_of_readInt value
  · rename_i notInt
    split at read
    · rename_i isReal
      cases value : readReal w with
      | error e =>
          rw [value] at read
          cases read
      | ok x =>
          rw [value] at read
          cases read
          rintro rfl
          exact readReal_ne_nan word isReal value
    · rename_i notReal
      cases read
      exact ⟨word, by simpa using notInt, by simpa using notReal⟩

theorem isFigure_of_numberValue (word : IsWord w) (read : numberValue w = .ok v) : IsFigure v := by
  rw [numberValue] at read
  cases value : tokenValue w with
  | error e =>
      rw [value] at read
      cases read
  | ok u =>
      have listed := isListed_of_tokenValue word value
      rw [value] at read
      cases u with
      | text t =>
          cases read
          trivial
      | int i =>
          cases read
          exact listed
      | real x =>
          cases read
          trivial
      | _ => exact absurd listed id

theorem listOn_eq_ok {countLine valuesLine : Option Text} {vs : List Value}
    (read : listOn countLine valuesLine = .ok vs) :
    (∀ v ∈ vs, IsListed v) ∧ (ofNat vs.length).length ≤ maxDigits := by
  rw [listOn] at read
  cases counted : countOn countLine with
  | error e =>
      rw [counted] at read
      cases read
  | ok n =>
      rw [counted] at read
      have few : (ofNat n).length ≤ maxDigits := by
        rw [countOn] at counted
        split at counted
        · cases counted
          decide
        · exact length_ofNat_of_countValue counted
      have few := (length_ofNat_le (by decide)).mp few
      cases valuesLine with
      | none =>
          cases read
          exact ⟨by simp, by decide⟩
      | some l =>
          have length := (Attempt.mapM_eq_ok_iff.mp read).length_eq
          rw [List.length_take] at length
          constructor
          · intro v member
            obtain ⟨w, inside, value⟩ := Attempt.exists_of_mem_mapM read member
            exact isListed_of_tokenValue (isWord_of_mem_words (List.mem_of_mem_take inside)) value
          · rw [length_ofNat_le (by decide)]
            omega

end

section

variable {s : Text} {c : Config} (held : Config.ofLines (usableLines s) = .ok c)
include held

/-- A single field has a word, the name of the output file or a number, unless its line is
    missing. -/
theorem single_of_ofLines (f : Single) :
    (firstWord (usableLines s)[f.line]? = none ∧ c.single f = .null) ∨
      (f = .outFile ∧ ∃ w, IsWord w ∧ c.single f = .text w) ∨
      (f ≠ .outFile ∧ IsFigure (c.single f)) := by
  have read := (Config.ofLines_eq_ok_iff.mp held).1 f
  rw [Single.valueOn] at read
  cases first : firstWord (usableLines s)[f.line]? with
  | none =>
      rw [first] at read
      exact Or.inl ⟨rfl, (Except.ok.inj read).symm⟩
  | some w =>
      have word : IsWord w := by
        obtain ⟨l, -, front⟩ := Option.bind_eq_some_iff.mp first
        exact isWord_of_mem_words (List.mem_of_head? front)
      rw [first] at read
      dsimp only at read
      split at read
      · rename_i name
        exact Or.inr (Or.inl ⟨name, w, word, (Except.ok.inj read).symm⟩)
      · rename_i other
        exact Or.inr (Or.inr ⟨other, isFigure_of_numberValue word read⟩)

/-- What is read of a file has values of the kinds that files give. -/
theorem legible_of_ofLines : c.Legible where
  outFile := by
    rcases single_of_ofLines held .outFile with ⟨-, missing⟩ | ⟨-, w, word, name⟩ | ⟨other, -⟩
    · have missing : c.outFile = .null := missing
      rw [missing]
      trivial
    · have name : c.outFile = .text w := name
      rw [name]
      exact word.2
    · exact absurd rfl other
  single f other := by
    rcases single_of_ofLines held f with ⟨-, missing⟩ | ⟨name, -⟩ | ⟨-, figure⟩
    · exact Or.inl missing
    · exact absurd name other
    · exact Or.inr figure
  multi f := (listOn_eq_ok ((Config.ofLines_eq_ok_iff.mp held).2 f)).1

/-- Every single field of a complete file has a word: the name of the output file or a number. -/
theorem single_of_complete (complete : 31 ≤ (usableLines s).length) (f : Single) :
    (f = .outFile ∧ ∃ w, IsWord w ∧ c.single f = .text w) ∨
      (f ≠ .outFile ∧ IsFigure (c.single f)) := by
  rcases single_of_ofLines held f with ⟨none, -⟩ | present
  · have missing := firstWord_usableLines_eq_none.mp none
    have inside : f.line < 31 := by cases f <;> decide
    omega
  · exact present

/-- No single value of a complete file is missing. -/
theorem completed_of_complete (complete : 31 ≤ (usableLines s).length) : c.completed = c := by
  have present (f : Single) (other : f ≠ .outFile) : c.single f ≠ .null := by
    intro missing
    rcases single_of_complete held complete f with ⟨name, -⟩ | ⟨-, figure⟩
    · exact other name
    · rw [missing] at figure
      exact figure
  rcases single_of_complete held complete .outFile with ⟨-, w, word, name⟩ | ⟨other, -⟩
  · have name : c.outFile = .text w := name
    have set : c.outFile.isSet = true := by
      rw [name]
      simpa [Value.isSet] using word.1
    rw [Config.completed_eq present (Or.inr set), name]
    exact congrArg (fun v => { c with outFile := v }) name.symm
  · exact absurd rfl other

end

/-- **When a complete file is stable.** What is read of a text with a line for every field can be
    written, and reading that gives the same configuration exactly if the lines of P and Q held
    equally many values and no numeral was too great for the reals. -/
theorem read_write_of_complete {s : Text} {c : Config} (found : read s = .ok (some c))
    (complete : 31 ≤ (usableLines s).length) :
    ∃ t, write c = .ok t ∧
      (read t = .ok (some c) ↔ c.ps.length = c.qs.length ∧ c.IsFinite) := by
  have held := ofLines_of_read found
  obtain ⟨t, written, again⟩ := (legible_of_ofLines held).read_write_iff
  refine ⟨t, written, ?_⟩
  rw [completed_of_complete held complete] at again
  rw [again]
  constructor
  · intro lasting
    exact ⟨lasting.grids, lasting.finite⟩
  · rintro ⟨grids, finite⟩
    exact ⟨finite, grids, fun f => (listOn_eq_ok ((Config.ofLines_eq_ok_iff.mp held).2 f)).2⟩

/-- A complete file with few labels, a name among the numbers, a device that is none, and a
    threshold of its own. -/
def complete (threshold : Text) : Text :=
  "h1\nh2\nmyout.txt\nsix\n1\n29 Ns\n2\n32 auto\n0\n1\n2 Ps\n3 Qs\n" ++ threshold ++
    " limit\n1\n0\n1\n4\n1\n2\n1\n1\n\n1\n1\n1\n0\n2\n60.5\n0\n0\n1\n8"

theorem read_write_complete :
    ∃ c, read (complete "-0.0") = .ok (some c) ∧
      31 ≤ (usableLines (complete "-0.0")).length ∧
      ∃ t, write c = .ok t ∧ read t = .ok (some c) := by
  have length : 31 ≤ (usableLines (complete "-0.0")).length := by decide +kernel
  have lasts : ((read (complete "-0.0")).toOption.join.any fun c =>
      decide (c.ps.length = c.qs.length ∧ c.IsFinite)) = true := by decide +kernel
  obtain ⟨c, some, lasts⟩ := (Option.any_eq_true _ _).mp lasts
  have found := Attempt.ok_of_toOption (Option.join_eq_some_iff.mp some)
  obtain ⟨t, written, again⟩ := read_write_of_complete found length
  exact ⟨c, found, length, t, written, again.mpr (of_decide_eq_true lasts)⟩

/-- A numeral that is too great for the reals does not last: it is written as a word. -/
theorem read_write_overflow_ne :
    ∃ c, read (complete "1e999") = .ok (some c) ∧
      31 ≤ (usableLines (complete "1e999")).length ∧
      ∃ t, write c = .ok t ∧ read t ≠ .ok (some c) := by
  have length : 31 ≤ (usableLines (complete "1e999")).length := by decide +kernel
  have infinite : ((read (complete "1e999")).toOption.join.any fun c =>
      decide (¬ c.IsFinite)) = true := by decide +kernel
  obtain ⟨c, some, infinite⟩ := (Option.any_eq_true _ _).mp infinite
  have found := Attempt.ok_of_toOption (Option.join_eq_some_iff.mp some)
  have held := ofLines_of_read found
  obtain ⟨t, written, again⟩ := (legible_of_ofLines held).read_write_iff
  rw [completed_of_complete held length] at again
  refine ⟨c, found, length, t, written, fun same => ?_⟩
  exact of_decide_eq_true infinite (again.mp same).finite

end ClusterPrep.Hpl
