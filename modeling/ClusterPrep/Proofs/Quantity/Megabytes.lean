import ClusterPrep.Proofs.Quantity.Memory
import Mathlib.Data.Rat.Floor

set_option autoImplicit false

/-
  What amounts of memory are worth. Digits, a unit letter and a letter B spell an amount, and the
  reader takes these texts and no others. Their megabytes come out exactly for all units but the
  kilobyte. Kilobytes are rounded to a real first, which shows in the megabytes as soon as the real
  lies in another span of 1024; and the Kelvin sign is let through as a letter K, but then there is
  no factor for it.
-/
namespace ClusterPrep.Memory

open Numeral

/-! ### Spellings -/

/-- The Kelvin sign, which is a letter K where case does not count. -/
def kelvinSign : CodePoint := .ofNat 0x212A

/-- The letters that name a unit. Megabytes can do without one. -/
def Scale.letters : Scale → List (Option CodePoint)
  | .none => [Option.none]
  | .kilo => [some 'K', some 'k', some kelvinSign]
  | .mega => [some 'M', some 'm']
  | .giga => [some 'G', some 'g']
  | .tera => [some 'T', some 't']

/-- The megabytes in one of a unit. -/
def Scale.factor : Scale → ℚ
  | .none | .mega => 1
  | .kilo => 1 / 1024
  | .giga => 1024
  | .tera => 1024 * 1024

/-- The letter B, of either case, or nothing in its place. -/
def byteMarks : List (Option CodePoint) := [none, some 'B', some 'b']

/-- What an amount is spelled with: digits, a unit letter and the letter B, the last two only if
    they are there, with blanks around and in front of the letters. -/
structure Spelling where
  before : Text
  digits : Text
  between : Text
  scale : Scale
  letter : Option CodePoint
  mark : Option CodePoint
  after : Text
  before_blank : ∀ c ∈ before, Text.isBlank c = true
  decimal : IsDecimal digits
  nonempty : digits ≠ []
  between_blank : ∀ c ∈ between, Text.isBlank c = true
  named : letter ∈ scale.letters
  marked : mark ∈ byteMarks
  after_blank : ∀ c ∈ after, Text.isBlank c = true

/-- The unit that a letter is taken for. -/
def Scale.taken (u : Scale) (letter : Option CodePoint) : Scale :=
  if letter = some kelvinSign then .none else u

/-! ### Letters -/

theorem letters_spec (u : Scale) : ∀ letter ∈ u.letters, ∀ c ∈ letter.toList,
    Scale.ofChar? c = some (u.taken letter) ∧ Text.isBlank c = false ∧
      Text.isDecimalDigit c = false := by
  cases u <;> decide

theorem marks_spec : ∀ mark ∈ byteMarks, ∀ c ∈ mark.toList,
    Scale.ofChar? c = none ∧ Text.isBlank c = false ∧ Text.isDecimalDigit c = false := by
  decide

/-- A letter names one unit only. -/
theorem scale_unique {u v : Scale} {letter : Option CodePoint} (first : letter ∈ u.letters)
    (second : letter ∈ v.letters) : u = v := by
  have alone : ∀ letter ∈ u.letters, letter ∈ v.letters → u = v := by
    cases u <;> cases v <;> decide
  exact alone letter first second

/-- A letter that is taken for a unit is one that names a unit. -/
theorem exists_of_ofChar? {c : CodePoint} {u : Scale} (taken : Scale.ofChar? c = some u) :
    ∃ v : Scale, some c ∈ v.letters := by
  rw [Scale.ofChar?] at taken
  split_ifs at taken with kilo mega giga tera kelvin
  · exact ⟨.kilo, by rcases kilo with rfl | rfl <;> decide⟩
  · exact ⟨.mega, by rcases mega with rfl | rfl <;> decide⟩
  · exact ⟨.giga, by rcases giga with rfl | rfl <;> decide⟩
  · exact ⟨.tera, by rcases tera with rfl | rfl <;> decide⟩
  · have same : c = kelvinSign := by rw [← CodePoint.ofNat_toNat c, kelvin, kelvinSign]
    exact ⟨.kilo, by rw [same]; decide⟩

theorem unit_cons {c : CodePoint} {u : Scale} (taken : Scale.ofChar? c = some u) (s : Text) :
    unit (c :: s) = (u, s) := by
  rw [unit, taken]

theorem unit_cons_of_none {c : CodePoint} (other : Scale.ofChar? c = none) (s : Text) :
    unit (c :: s) = (.none, c :: s) := by
  rw [unit, other]

/-- In front of what follows the unit there is a letter of it, if any. -/
theorem exists_letter (s : Text) :
    ∃ (u : Scale) (letter : Option CodePoint), letter ∈ u.letters ∧
      s = letter.toList ++ (unit s).2 := by
  have bare (none : unit s = (.none, s)) : ∃ (u : Scale) (letter : Option CodePoint),
      letter ∈ u.letters ∧ s = letter.toList ++ (unit s).2 :=
    ⟨.none, Option.none, by decide, by rw [none]; rfl⟩
  cases s with
  | nil => exact bare rfl
  | cons c s =>
      cases taken : Scale.ofChar? c with
      | none => exact bare (unit_cons_of_none taken s)
      | some u =>
          obtain ⟨v, named⟩ := exists_of_ofChar? taken
          exact ⟨v, some c, named, by rw [unit_cons taken]; rfl⟩

theorem exists_mark (s : Text) : ∃ mark ∈ byteMarks, s = mark.toList ++ dropByte s := by
  cases s with
  | nil => exact ⟨none, by decide, rfl⟩
  | cons c s =>
      rw [dropByte]
      split
      · rename_i same
        exact ⟨some c, by rcases same with rfl | rfl <;> decide, rfl⟩
      · exact ⟨none, by decide, rfl⟩

theorem isBlank_of_mem_dropByte {mark : Option CodePoint} {after : Text}
    (marked : mark ∈ byteMarks) (blank : ∀ c ∈ after, Text.isBlank c = true) :
    ∀ c ∈ dropByte (mark.toList ++ after), Text.isBlank c = true := by
  cases mark with
  | some b =>
      have same : b = 'B' ∨ b = 'b' := by simpa [byteMarks] using marked
      have dropped : dropByte ((some b).toList ++ after) = after := if_pos same
      rwa [dropped]
  | none =>
      obtain ⟨mark, -, whole⟩ := exists_mark after
      intro c member
      refine blank c ?_
      rw [whole]
      exact List.mem_append_right _ member

/-! ### Reading a spelling -/

namespace Spelling

variable (a : Spelling)

/-- What follows the digits. -/
def ending : Text := a.between ++ (a.letter.toList ++ (a.mark.toList ++ a.after))

def text : Text := a.before ++ (a.digits ++ a.ending)

/-- The number that the digits stand for. -/
def amount : Nat := worth a.digits

/-- The megabytes of the amount, rounded down, but at least one. -/
def exact : Int := max 1 ⌊(a.amount : ℚ) * a.scale.factor⌋

theorem isDecimalDigit_of_mem_ending : ∀ c ∈ a.ending, Text.isDecimalDigit c = false := by
  have blank {c : CodePoint} (blank : Text.isBlank c = true) : Text.isDecimalDigit c = false := by
    cases digit : Text.isDecimalDigit c with
    | false => rfl
    | true => rw [isBlank_of_isDecimalDigit digit] at blank; cases blank
  intro c member
  simp only [ending, List.mem_append] at member
  rcases member with inside | inside | inside | inside
  · exact blank (a.between_blank c inside)
  · exact (letters_spec _ _ a.named c inside).2.2
  · exact (marks_spec _ a.marked c inside).2.2
  · exact blank (a.after_blank c inside)

/-- After the letters there are blanks only. -/
theorem closes : ∃ rest, unit (a.ending.dropWhile Text.isBlank) = (a.scale.taken a.letter, rest) ∧
    (dropByte rest).dropWhile Text.isBlank = [] := by
  have closed := isBlank_of_mem_dropByte a.marked a.after_blank
  have named := a.named
  have marked := a.marked
  rw [ending, List.dropWhile_append_of_pos a.between_blank]
  cases letter : a.letter with
  | some c =>
      rw [letter] at named
      obtain ⟨taken, clear, -⟩ := letters_spec _ _ named c (by simp)
      refine ⟨a.mark.toList ++ a.after, ?_, List.dropWhile_eq_nil_iff.mpr closed⟩
      rw [Option.toList_some, List.singleton_append, List.dropWhile_cons_of_neg (by simp [clear]),
        unit_cons taken]
  | none =>
      rw [letter] at named
      have scale : a.scale = .none := scale_unique named (by decide)
      rw [scale, Option.toList_none, List.nil_append]
      cases mark : a.mark with
      | none =>
          have nothing : a.after.dropWhile Text.isBlank = [] :=
            List.dropWhile_eq_nil_iff.mpr a.after_blank
          refine ⟨[], ?_, rfl⟩
          rw [Option.toList_none, List.nil_append, nothing]
          rfl
      | some b =>
          rw [mark] at closed marked
          obtain ⟨other, clear, -⟩ := marks_spec _ marked b (by simp)
          refine ⟨b :: a.after, ?_, List.dropWhile_eq_nil_iff.mpr closed⟩
          rw [Option.toList_some, List.singleton_append,
            List.dropWhile_cons_of_neg (by simp [clear]), unit_cons_of_none other]
          rfl

theorem parts?_text : parts? a.text = some (a.digits, a.scale.taken a.letter) := by
  have digit : ∀ c ∈ (a.digits ++ a.ending).head?, Text.isBlank c = false := by
    intro c first
    rw [List.head?_append_of_ne_nil _ a.nonempty] at first
    exact isBlank_of_isDecimalDigit (a.decimal c (List.mem_of_mem_head? first))
  have other : ∀ c ∈ a.ending.head?, Text.isDecimalDigit c = false :=
    fun c first => a.isDecimalDigit_of_mem_ending c (List.mem_of_mem_head? first)
  obtain ⟨rest, taken, closed⟩ := a.closes
  rw [parts?, text, (Text.span_append a.before_blank digit).2]
  dsimp only
  rw [(Text.span_append a.decimal other).1, (Text.span_append a.decimal other).2, taken]
  dsimp only
  rw [closed]
  simp [a.nonempty]

end Spelling

/-- What the reader takes is spelled as an amount. -/
theorem exists_spelling {s ds : Text} {u : Scale} (parts : parts? s = some (ds, u)) :
    ∃ a : Spelling, a.text = s := by
  rw [parts?] at parts
  dsimp only at parts
  split at parts
  · cases parts
  · rename_i proper
    simp only [List.isEmpty_iff, Bool.not_eq_true', not_or, Bool.not_eq_false] at proper
    obtain ⟨nonempty, closed⟩ := proper
    have blank {t : Text} : ∀ c ∈ t.takeWhile Text.isBlank, Text.isBlank c = true :=
      fun c member => List.mem_takeWhile_imp member
    generalize tail : ((s.dropWhile Text.isBlank).dropWhile Text.isDecimalDigit).dropWhile
      Text.isBlank = t at closed
    obtain ⟨v, letter, named, front⟩ := exists_letter t
    obtain ⟨mark, marked, back⟩ := exists_mark (unit t).2
    refine ⟨{
      before := s.takeWhile Text.isBlank
      digits := (s.dropWhile Text.isBlank).takeWhile Text.isDecimalDigit
      between := ((s.dropWhile Text.isBlank).dropWhile Text.isDecimalDigit).takeWhile Text.isBlank
      scale := v
      letter := letter
      mark := mark
      after := dropByte (unit t).2
      before_blank := blank
      decimal := fun c member => List.mem_takeWhile_imp member
      nonempty := nonempty
      between_blank := blank
      named := named
      marked := marked
      after_blank := List.dropWhile_eq_nil_iff.mp closed }, ?_⟩
    rw [Spelling.text, Spelling.ending]
    dsimp only
    rw [← back, ← front, ← tail, List.takeWhile_append_dropWhile, List.takeWhile_append_dropWhile,
      List.takeWhile_append_dropWhile]

/-! ### Megabytes -/

/-- That it is at least one megabyte hides no error. -/
theorem max_nearest_iff (v : Nat) :
    max 1 ((Binary64.nearest v / 1024 : Nat) : Int) = max 1 ((v / 1024 : Nat) : Int) ↔
      Binary64.nearest v / 1024 = v / 1024 := by
  by_cases short : v < 2 ^ 53
  · rw [Binary64.nearest_of_lt short]
    exact iff_of_true rfl rfl
  · have large := Binary64.le_two_mul_nearest v
    omega

/-- A whole number of 54 bits goes wrong first where it is rounded up to a multiple of 1024. -/
theorem nearest_div_of_lt {v : Nat} (below : v < 2 ^ 53 + 1023) :
    Binary64.nearest v / 1024 = v / 1024 := by
  by_cases short : v < 2 ^ 53
  · rw [Binary64.nearest_of_lt short]
  · have bits : v.log2 = 53 := by
      rw [Nat.log2_eq_iff (by omega)]
      omega
    have even : Binary64.lastBit v = 2 := by rw [Binary64.lastBit, bits]; rfl
    have least := Number.div_le_roundEven v 2
    obtain ⟨above, -⟩ := Binary64.nearest_near v
    rw [even] at above
    rw [Binary64.nearest, even] at above ⊢
    omega

namespace Spelling

variable {a : Spelling}

theorem read_text (short : a.digits.length ≤ maxDigits) : read a.text = (do
    let n ← (a.scale.taken a.letter).megabytes a.amount
    return max 1 n) := by
  rw [read_of_parts a.parts?_text, readInt_of_isDecimal a.decimal a.nonempty,
    if_neg (Nat.not_lt.mpr short)]
  rfl

theorem exact_of_kilo (kilo : a.scale = .kilo) :
    a.exact = max 1 ((a.amount / 1024 : Nat) : Int) := by
  have floor := Rat.floor_natCast_div_natCast a.amount 1024
  rw [exact, kilo, Scale.factor, mul_one_div, Int.natCast_div, ← floor]
  rfl

/-- A factor that is a whole number leaves nothing to round down. -/
theorem exact_of_factor {k : Nat} (factor : a.scale.factor = k) :
    a.exact = max 1 ((a.amount : Int) * k) := by
  have floor := Int.floor_natCast (R := ℚ) (a.amount * k)
  rw [exact, factor, ← Nat.cast_mul, floor]
  rfl

variable (a) in
/-- The amounts that are read exactly: those in kilobytes if the real of the number is in the same
    span of 1024 as the number itself, and those with a Kelvin sign if they are one megabyte anyway,
    with a factor and without. -/
structure Faithful : Prop where
  kilo : a.scale = .kilo → a.letter ≠ some kelvinSign →
    a.amount < 2 ^ 1024 - 2 ^ 970 ∧ Binary64.nearest a.amount / 1024 = a.amount / 1024
  kelvin : a.letter = some kelvinSign → a.amount ≤ 1

/-- Only letters K are mistaken for something else. -/
theorem scale_of_kelvinSign (kelvin : a.letter = some kelvinSign) : a.scale = .kilo := by
  have named := a.named
  rw [kelvin] at named
  exact scale_unique named (by decide)

theorem read_text_of_kelvinSign (short : a.digits.length ≤ maxDigits)
    (kelvin : a.letter = some kelvinSign) : read a.text = .ok a.exact ↔ a.amount ≤ 1 := by
  rw [read_text short, Scale.taken, if_pos kelvin, exact_of_kilo (scale_of_kelvinSign kelvin)]
  change Except.ok (max 1 (a.amount : Int)) = _ ↔ _
  rw [Except.ok.injEq]
  omega

theorem read_text_of_kilo (short : a.digits.length ≤ maxDigits) (kilo : a.scale = .kilo)
    (letter : a.letter ≠ some kelvinSign) : read a.text = .ok a.exact ↔
      a.amount < 2 ^ 1024 - 2 ^ 970 ∧ Binary64.nearest a.amount / 1024 = a.amount / 1024 := by
  rw [read_text short, Scale.taken, if_neg letter, exact_of_kilo kilo, kilo]
  by_cases within : a.amount < 2 ^ 1024 - 2 ^ 970
  · rw [megabytes_kilo_of_within within, and_iff_right within, ← max_nearest_iff]
    change Except.ok (max 1 ((Binary64.nearest a.amount / 1024 : Nat) : Int)) = _ ↔ _
    rw [Except.ok.injEq]
  · have beyond : 2 ^ 1024 - 2 ^ 970 ≤ (a.amount : Int).natAbs := by
      rw [Int.natAbs_natCast]
      exact Nat.not_lt.mp within
    rw [megabytes_kilo_of_beyond beyond]
    refine iff_of_false ?_ fun proper => within proper.1
    intro done
    cases done

/-- All other units are multiplied as whole numbers. -/
theorem exists_factor {u : Scale} (other : u ≠ .kilo) (i : Int) :
    ∃ k : Nat, u.factor = k ∧ u.megabytes i = .ok (i * k) := by
  cases u with
  | none | mega => exact ⟨1, Nat.cast_one.symm, by rw [Nat.cast_one, mul_one]; rfl⟩
  | giga => exact ⟨1024, rfl, rfl⟩
  | tera => exact ⟨1024 * 1024, by rw [Scale.factor]; norm_num, rfl⟩
  | kilo => exact absurd rfl other

theorem read_text_of_ne_kilo (short : a.digits.length ≤ maxDigits) (other : a.scale ≠ .kilo) :
    read a.text = .ok a.exact := by
  have letter : a.letter ≠ some kelvinSign := mt scale_of_kelvinSign other
  obtain ⟨k, factor, result⟩ := exists_factor other a.amount
  rw [read_text short, Scale.taken, if_neg letter, result, exact_of_factor factor]
  rfl

theorem read_text_eq_iff (short : a.digits.length ≤ maxDigits) :
    read a.text = .ok a.exact ↔ a.Faithful := by
  by_cases kelvin : a.letter = some kelvinSign
  · rw [read_text_of_kelvinSign short kelvin]
    exact ⟨fun small => ⟨fun _ letter => absurd kelvin letter, fun _ => small⟩,
      fun faithful => faithful.kelvin kelvin⟩
  by_cases kilo : a.scale = .kilo
  · rw [read_text_of_kilo short kilo kelvin]
    exact ⟨fun near => ⟨fun _ _ => near, fun same => absurd same kelvin⟩,
      fun faithful => faithful.kilo kilo kelvin⟩
  · exact iff_of_true (read_text_of_ne_kilo short kilo)
      ⟨fun same => absurd same kilo, fun same => absurd same kelvin⟩

/-- Numbers up to 2 ^ 53, and some beyond, are read exactly in every unit, unless a Kelvin sign
    names it. -/
theorem read_text_of_lt (short : a.digits.length ≤ maxDigits)
    (letter : a.letter ≠ some kelvinSign) (small : a.amount < 2 ^ 53 + 1023) :
    read a.text = .ok a.exact := by
  have within : a.amount < 2 ^ 1024 - 2 ^ 970 := Nat.lt_trans small (by decide +kernel)
  exact (read_text_eq_iff short).mpr
    ⟨fun _ _ => ⟨within, nearest_div_of_lt small⟩, fun same => absurd same letter⟩

end Spelling

/-- The number of megabytes is exact where a text spells an amount with not too many digits, and
    any other text is a bad value. -/
structure IsExact (s : Text) : Prop where
  spelled : ∀ a : Spelling, a.text = s → a.digits.length ≤ maxDigits → read s = .ok a.exact
  other : (¬ ∃ a : Spelling, a.text = s) → ∃ e, read s = .error e ∧ e.kind = .badValue

/-- **Which texts are read exactly.** -/
theorem isExact_iff (s : Text) : IsExact s ↔
    ∀ a : Spelling, a.text = s → a.digits.length ≤ maxDigits → a.Faithful := by
  have other (none : ¬ ∃ a : Spelling, a.text = s) :
      ∃ e, read s = .error e ∧ e.kind = .badValue := by
    have unread : parts? s = Option.none := by
      cases parts : parts? s with
      | none => rfl
      | some part => exact absurd (exists_spelling parts) none
    exact ⟨.badMemory s, by rw [read, unread]; rfl, rfl⟩
  constructor
  · rintro exact a rfl short
    exact (Spelling.read_text_eq_iff short).mp (exact.spelled a rfl short)
  · intro faithful
    refine ⟨?_, other⟩
    rintro a rfl short
    exact (Spelling.read_text_eq_iff short).mpr (faithful a rfl short)

/-- The first number of kilobytes that comes out wrong, by one megabyte. -/
theorem not_isExact_large : ¬ IsExact "9007199254742015K" := by
  intro exact
  have result := exact.spelled {
      before := []
      digits := "9007199254742015"
      between := []
      scale := .kilo
      letter := some 'K'
      mark := none
      after := []
      before_blank := by decide
      decimal := by unfold IsDecimal; decide
      nonempty := by decide
      between_blank := by decide
      named := by decide
      marked := by decide
      after_blank := by decide } (by decide) (by decide)
  have wrong : read "9007199254742015K" = .ok 8796093022209 := by decide +kernel
  rw [wrong, Spelling.exact_of_kilo rfl] at result
  revert result
  decide +kernel

/-- And a Kelvin sign leaves the number as it is. -/
example : read [.char '2', kelvinSign] = .ok 2 := by decide +kernel

end ClusterPrep.Memory
