import ClusterPrep.Proofs.Hpl.Lines

set_option autoImplicit false

/-
  Writing HPL.dat and reading it back. Every line that is written begins with the words of its
  values; the label comes after them. A count tells how many of the words on the next line are
  values, so that no word of a label is taken for one.
-/
namespace ClusterPrep.Hpl

open Numeral Text

/-! ### Configurations that a file can hold -/

/-- A number that has a numeral: a whole number that is not too long, or a finite real. -/
def IsNumeral : Value → Prop
  | .int i => (ofNat i.natAbs).length ≤ maxDigits
  | .real x => x.isFinite = true
  | _ => False

/-- An item of a list: a number, or a name in neither form of a number. -/
def IsItem : Value → Prop
  | .text s => IsWord s ∧ isIntToken s = false ∧ isRealToken s = false
  | v => IsNumeral v

/-- A configuration that a file can hold. -/
structure Config.WellFormed (c : Config) : Prop where
  outFile : IsFileName c.outFile
  number : ∀ f, f ≠ .outFile → c.single f = .null ∨ IsNumeral (c.single f)
  item : ∀ f, ∀ v ∈ c.multi f, IsItem v
  /-- The length of a list is itself written as a whole number, with the same limit on its digits.
      No list that fits into a memory comes near it. -/
  length : ∀ f, (ofNat (c.multi f).length).length ≤ maxDigits
  grids : c.ps.length = c.qs.length

section

variable {v : Value}

theorem IsNumeral.isItem (numeral : IsNumeral v) : IsItem v := by
  cases v <;> first | exact numeral | exact absurd numeral id

theorem IsItem.hasWord (item : IsItem v) : HasWord v := by
  cases v with
  | int i => exact item
  | real x => trivial
  | text s => exact item.1
  | _ => exact absurd item id

/-- A value is read from its word with its kind. -/
theorem tokenValue_wordOf (item : IsItem v) : tokenValue (wordOf v) = .ok v := by
  cases v with
  | int i => exact tokenValue_ofInt i item
  | real x => exact tokenValue_text item
  | text s =>
      obtain ⟨-, notInt, notReal⟩ := item
      rw [wordOf, tokenValue, notInt, notReal]
      rfl
  | _ => exact absurd item id

theorem numberValue_wordOf (numeral : IsNumeral v) : numberValue (wordOf v) = .ok v := by
  rw [numberValue, tokenValue_wordOf numeral.isItem]
  cases v <;> first | rfl | exact absurd numeral id

end

/-- The configuration with one place taken from another one. -/
def fill (source c : Config) : Entry → Config
  | .single f _ => c.setSingle (source.single f) f
  | .multi f _ _ => c.setMulti (source.multi f) f
  | .grids _ _ _ => (c.setMulti source.ps .ps).setMulti source.qs .qs

/-- The places of the file are all the fields. -/
theorem foldl_fill_schema (c start : Config) : schema.foldl (fill c) start = c := by
  simp only [schema, List.foldl_cons, List.foldl_nil, fill, Config.setSingle, Config.setMulti,
    Config.single, Config.multi]

/-- The values of a line, and no word of its label, are read if the count is that of the values. -/
theorem nextValues_valuesLine {vs : List Value} (each : ∀ v ∈ vs, IsItem v) {count : Nat}
    (exact : vs.length = count) (label : Text) (rest : List Text) :
    nextValues count (strip (valuesLine vs label) :: rest) = .ok (vs, rest) := by
  have separate : ∀ w ∈ vs.map wordOf, IsWord w := by
    intro w member
    obtain ⟨v, inside, rfl⟩ := List.mem_map.mp member
    exact isWord_wordOf (each v inside).hasWord
  have front : (vs.map wordOf ++ words label).take count = vs.map wordOf := by
    rw [← exact, ← List.length_map wordOf, List.take_left]
  have values : (vs.map wordOf).mapM tokenValue = .ok vs := by
    have all := Attempt.mapM_eq_ok (f := tokenValue ∘ wordOf) (g := id)
      fun v member => tokenValue_wordOf (each v member)
    rwa [← List.mapM_map, List.map_id] at all
  simp only [nextValues, words_strip, valuesLine, words_labelled, words_unwords separate, front,
    values]
  rfl

/-- The count of a line is the length of the list that it was written for. -/
theorem nextCount_countText {vs : List Value} (short : (ofNat vs.length).length ≤ maxDigits)
    (label : Text) (rest : List Text) :
    nextCount (strip (labelled (countText vs) label) :: rest) = .ok (vs.length, rest) := by
  have count : words (countText vs) = [countText vs] := words_eq_singleton (isWord_ofNat _)
  have value : countValue (countText vs) = .ok vs.length := countValue_ofNat _ short
  simp only [nextCount, nextWord, words_strip, words_labelled, count, List.singleton_append,
    List.head?_cons, value]
  rfl

/-! ### Single values -/

theorem isNumeral_default {f : Single} (other : f ≠ .outFile) :
    IsNumeral (({} : Config).single f) := by
  cases f with
  | outFile => exact absurd rfl other
  | threshold =>
      change (Binary64.ofInt 16).isFinite = true
      decide +kernel
  | _ =>
      simp only [Config.single, IsNumeral]
      decide

namespace Config.WellFormed

variable {c : Config} (formed : c.WellFormed)
include formed

theorem worded : c.Worded where
  outFile := formed.outFile
  single f other := (formed.number f other).imp_right fun numeral => numeral.isItem.hasWord
  multi f v member := (formed.item f v member).hasWord

theorem isNumeral_completed {f : Single} (other : f ≠ .outFile) :
    IsNumeral (c.completed.single f) := by
  rw [Config.single_completed c other]
  rcases formed.number f other with missing | numeral
  · rw [missing]
    exact isNumeral_default other
  · cases present : c.single f <;> rw [present] at numeral <;>
      first | exact numeral | exact absurd numeral id

/-- A single value is read from its line with its kind. -/
theorem nextSingle_labelled (f : Single) (label : Text) (rest : List Text) :
    nextSingle f (strip (labelled (wordOf (c.completed.single f)) label) :: rest) =
      .ok (c.completed.single f, rest) := by
  simp only [nextSingle, nextWord, words_strip, words_labelled,
    words_eq_singleton (formed.worded.isWord_single f), List.singleton_append, List.head?_cons]
  by_cases name : f = .outFile
  · subst name
    obtain ⟨s, value, -, -⟩ := formed.worded.outFile_completed
    have value : c.completed.single .outFile = .text s := value
    rw [if_pos rfl, value]
    rfl
  · rw [if_neg name, numberValue_wordOf (formed.isNumeral_completed name)]
    rfl

/-! ### Places -/

/-- Reading the lines of a place fills that place and takes those lines only. -/
theorem readEntry_linesOf (acc : Config) (e : Entry) (rest : List Text) :
    readEntry acc ((linesOf c e).map strip ++ rest) e = .ok (fill c.completed acc e, rest) := by
  cases e with
  | single f label =>
      simp only [linesOf, List.map_cons, List.map_nil, List.cons_append, List.nil_append,
        readEntry, formed.nextSingle_labelled f]
      rfl
  | multi f countLabel valuesLabel =>
      simp only [linesOf, List.map_cons, List.map_nil, List.cons_append, List.nil_append,
        readEntry, nextCount_countText (formed.length f), bind, Except.bind,
        nextValues_valuesLine (formed.item f) rfl]
      rw [fill, Config.multi_completed]
      rfl
  | grids countLabel psLabel qsLabel =>
      have count := nextCount_countText (formed.length .ps)
      have ps := nextValues_valuesLine (formed.item .ps) rfl
      have qs := nextValues_valuesLine (formed.item .qs) formed.grids.symm
      simp only [Config.multi] at count ps qs
      simp only [linesOf, List.map_cons, List.map_nil, List.cons_append, List.nil_append,
        readEntry, count, ps, qs, bind, Except.bind]
      rfl

/-- Reading the lines of several places fills them one after the other. -/
theorem readEntries_linesOf (es : List Entry) (acc : Config) :
    readEntries es acc ((es.map (linesOf c)).flatten.map strip) =
      .ok (es.foldl (fill c.completed) acc) := by
  induction es generalizing acc with
  | nil => rfl
  | cons e es ih =>
      have step := formed.readEntry_linesOf acc e ((es.map (linesOf c)).flatten.map strip)
      rw [List.map_cons, List.flatten_cons, List.map_append, readEntries, step, List.foldl_cons]
      exact ih (fill c.completed acc e)

end Config.WellFormed

/-! ### The whole file -/

/-- What is written of a well-formed configuration is read back as that configuration, with the
    default where a value was missing. -/
theorem read_write_completed {c : Config} (formed : c.WellFormed) :
    ∃ s, write c = .ok s ∧ read s = .ok (some c.completed) := by
  have places : schema.mapM (entryLines c) = .ok (schema.map (linesOf c)) :=
    Attempt.mapM_eq_ok fun e _ => formed.worded.entryLines_eq e
  refine ⟨unlines (header ++ (schema.map (linesOf c)).flatten), ?_, ?_⟩
  · rw [write, places]
    rfl
  · have lines : ∀ l ∈ header ++ (schema.map (linesOf c)).flatten, IsLine l := by
      intro l member
      rcases List.mem_append.mp member with member | member
      · exact isLine_header l member
      · obtain ⟨ls, inside, within⟩ := List.mem_flatten.mp member
        obtain ⟨e, place, rfl⟩ := List.mem_map.mp inside
        exact formed.worded.isLine_linesOf (isLine_label e place) l within
    have many : ¬ ((header ++ (schema.map (linesOf c)).flatten).map strip).length < 3 := by
      simp [header, schema, linesOf]
    have body : ((header ++ (schema.map (linesOf c)).flatten).map strip).drop header.length =
        (schema.map (linesOf c)).flatten.map strip := by
      rw [List.map_append, ← List.length_map strip, List.drop_left]
    rw [read, usableLines_unlines (by simp [header]) lines, if_neg many, body,
      formed.readEntries_linesOf, foldl_fill_schema]
    rfl

/-- A configuration with missing values, a name among the numbers, and empty lists. -/
def sparse : Config :=
  { outFile := .null
    outDevice := .null
    ns := [.int (-7), .real (Binary64.ofInt 3), .text "auto"]
    ps := []
    qs := []
    threshold := .int 16
    depths := [] }

theorem read_write_sparse :
    sparse.WellFormed ∧ ∃ s, write sparse = .ok s ∧ read s = .ok (some sparse.completed) := by
  have formed : sparse.WellFormed := by
    refine ⟨trivial, ?_, ?_, ?_, rfl⟩
    · intro f other
      cases f with
      | outFile => exact absurd rfl other
      | outDevice => exact Or.inl rfl
      | _ =>
          refine Or.inr ?_
          simp only [Config.single, sparse, IsNumeral]
          decide
    · have whole (i : Int) (short : (ofNat i.natAbs).length ≤ maxDigits) : IsItem (.int i) := short
      have three : IsItem (.real (Binary64.ofInt 3)) := by
        change (Binary64.ofInt 3).isFinite = true
        decide +kernel
      have name : IsItem (.text "auto") := by
        unfold IsItem IsWord
        decide
      intro f
      cases f with
      | ns => simp [Config.multi, sparse, whole (-7) (by decide), three, name]
      | ps | qs | depths => simp [Config.multi, sparse]
      | _ =>
          simp only [Config.multi, sparse, List.mem_singleton, forall_eq]
          exact whole _ (by decide)
    · intro f
      cases f <;> decide
  exact ⟨formed, read_write_completed formed⟩

end ClusterPrep.Hpl
