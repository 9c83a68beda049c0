import ClusterPrep.Proofs.Hpl.Lines
import ClusterPrep.Proofs.Hpl.Slots
import ClusterPrep.Proofs.Number.WholeNumerals

set_option autoImplicit false

/-
  Which texts the reader of HPL.dat answers. A word in the form of a real has a value however long
  it is, and so has a word in the form of a whole number unless it has too many digits; digits of
  every script count. So the reader stops over such a whole number, or over a count that begins with
  one, and over nothing else.
-/
namespace ClusterPrep

namespace Numeral

/-- A real has a value if its parts have, and there is a digit in it. -/
theorem exists_unsignedReal {s rest last : Text} {ds es : List Nat} {e : Int}
    (whole : optionalRun s = some (ds, rest)) (part : fraction rest = some (es, last))
    (present : ¬ (ds = [] ∧ es = [])) (power : exponent last = some e) (neg : Bool) :
    ∃ x, unsignedReal neg s = some x := by
  simp only [unsignedReal, whole, part, power, present, Option.bind_some, Option.map_some,
    ↓reduceIte]
  exact ⟨_, rfl⟩

end Numeral

namespace Hpl

open Numeral

/-! ### The form of a number -/

theorem isDecimal_leadingDigits (s : Text) : IsDecimal (leadingDigits s).1 :=
  fun _ member => List.mem_takeWhile_imp member

theorem leadingDigits_fst_append_snd (s : Text) : (leadingDigits s).1 ++ (leadingDigits s).2 = s :=
  List.takeWhile_append_dropWhile

/-- The digits with which a word begins, after its sign. -/
def digitsOf (w : Text) : Text := (leadingDigits (sign w).2).1

theorem digitsOf_of_isIntToken {s : Text} (token : isIntToken s = true) :
    (sign s).2 = digitsOf s ∧ digitsOf s ≠ [] := by
  simp only [isIntToken, Bool.and_eq_true, Bool.not_eq_true', List.isEmpty_eq_false_iff,
    List.isEmpty_iff] at token
  have whole := leadingDigits_fst_append_snd (sign s).2
  rw [token.2, List.append_nil] at whole
  exact ⟨whole.symm, token.1⟩

theorem stops_point (s : Text) : Stops ('.' :: s) :=
  .cons (by decide) (by decide)

/-- The end of a real has the value of an exponent. -/
theorem exponent_of_isExponentToken {s : Text} (token : isExponentToken s = true) :
    Stops s ∧ ∃ e, exponent s = some e := by
  cases s with
  | nil => exact ⟨.nil, 0, rfl⟩
  | cons c rest =>
      rw [isExponentToken, Bool.and_eq_true, Bool.or_eq_true, beq_iff_eq, beq_iff_eq] at token
      obtain ⟨mark, power⟩ := token
      obtain ⟨body, present⟩ := digitsOf_of_isIntToken power
      have digits : IsDecimal (digitsOf rest) := isDecimal_leadingDigits _
      have run := digitRun_of_isDecimal digits Stops.nil false (.inr present)
      rw [List.append_nil, ← body] at run
      constructor
      · rcases mark with rfl | rfl
        · exact .cons (by decide) (by decide)
        · exact .cons (by decide) (by decide)
      · rcases signed : sign rest with ⟨neg, digits⟩
        rw [signed] at run
        exact ⟨_, by rw [exponent, if_pos mark, signed]; simp only [run]; rfl⟩

/-- Digits, a point and digits, and an exponent have a value. -/
theorem exists_unsignedReal_point {whole part rest : Text} (first : IsDecimal whole)
    (second : IsDecimal part) (present : ¬ (whole = [] ∧ part = []))
    (token : isExponentToken rest = true) (neg : Bool) :
    ∃ x, unsignedReal neg (whole ++ .char '.' :: (part ++ rest)) = some x := by
  obtain ⟨stops, e, power⟩ := exponent_of_isExponentToken token
  have run := optionalRun_of_isDecimal first (stops_point (part ++ rest))
  have fractional : fraction ('.' :: (part ++ rest)) = some (values part, rest) :=
    optionalRun_of_isDecimal second stops
  have digits : ¬ (values whole = [] ∧ values part = []) := by
    rwa [first.values_eq_nil_iff, second.values_eq_nil_iff]
  exact exists_unsignedReal run fractional digits power neg

/-- Digits without a point and an exponent have a value, too. -/
theorem exists_unsignedReal_bare {whole rest : Text} (digits : IsDecimal whole)
    (present : whole ≠ []) (token : isExponentToken rest = true) (neg : Bool) :
    ∃ x, unsignedReal neg (whole ++ rest) = some x := by
  obtain ⟨stops, e, power⟩ := exponent_of_isExponentToken token
  have run := optionalRun_of_isDecimal digits stops
  have nonempty : values whole ≠ [] := mt digits.values_eq_nil_iff.mp present
  have plain : fraction rest = some ([], rest) := by
    refine fraction.eq_2 rest ?_
    rintro r rfl
    cases token
  exact exists_unsignedReal run plain (by simp [nonempty]) power neg

/-- A word in the form of a real has a value. -/
theorem exists_readReal {w : Text} (word : Text.IsWord w) (real : isRealToken w = true) :
    ∃ x, readReal w = .ok x := by
  have bare : Text.trimWhile isMargin w = w :=
    Text.trimWhile_of_forall fun c member => isMargin_of_not_isBlank (word.2 c member)
  have value : ∃ x, unsignedReal (sign w).1 (sign w).2 = some x := by
    rw [← leadingDigits_fst_append_snd (sign w).2]
    have first := isDecimal_leadingDigits (sign w).2
    rw [isRealToken] at real
    generalize leadingDigits (sign w).2 = parts at real first ⊢
    obtain ⟨whole, rest⟩ := parts
    dsimp only at real first ⊢
    split at real
    · rename_i r
      rw [← leadingDigits_fst_append_snd r]
      have second := isDecimal_leadingDigits r
      generalize leadingDigits r = parts at real second ⊢
      obtain ⟨part, last⟩ := parts
      dsimp only at real second ⊢
      simp only [Bool.and_eq_true, Bool.not_eq_true', Bool.and_eq_false_iff,
        List.isEmpty_eq_false_iff] at real
      exact exists_unsignedReal_point first second (by grind) real.2 _
    · simp only [Bool.and_eq_true, Bool.not_eq_true', List.isEmpty_eq_false_iff] at real
      exact exists_unsignedReal_bare first real.1 real.2 _
  obtain ⟨x, value⟩ := value
  rw [readReal, bare]
  dsimp only
  split
  · exact ⟨_, rfl⟩
  · split
    · exact ⟨_, rfl⟩
    · rw [value]
      exact ⟨_, rfl⟩

/-! ### Attempts over numerals -/

/-- An attempt that gives a result where its numerals are fine, and else fails over one of too many
    digits. -/
structure Answers {α : Type} (fine : Prop) (x : Attempt α) : Prop where
  ok : fine → ∃ a, x = .ok a
  long : ¬ fine → ∃ n, maxDigits < n ∧ x = .error (.longNumeral n)

namespace Answers

variable {α β : Type} {p : Prop} {x : Attempt α}

theorem ok_iff (answers : Answers p x) : (∃ a, x = .ok a) ↔ p := by
  refine ⟨fun ⟨a, result⟩ => ?_, answers.ok⟩
  by_contra long
  obtain ⟨n, -, failed⟩ := answers.long long
  rw [result] at failed
  cases failed

theorem of_ok (a : α) (fine : p) : Answers p (.ok a) :=
  ⟨fun _ => ⟨a, rfl⟩, fun long => absurd fine long⟩

theorem congr (answers : Answers p x) {q : Prop} (same : q ↔ p) : Answers q x :=
  ⟨fun fine => answers.ok (same.mp fine), fun long => answers.long (mt same.mpr long)⟩

/-- What goes on from a result is fine if the result is, and what goes on from it. -/
theorem bind (answers : Answers p x) {q : α → Prop} {f : α → Attempt β}
    (next : ∀ a, x = .ok a → Answers (q a) (f a)) :
    Answers (p ∧ ∀ a, x = .ok a → q a) (x >>= f) := by
  constructor
  · rintro ⟨fine, rest⟩
    obtain ⟨a, result⟩ := answers.ok fine
    rw [result]
    exact (next a result).ok (rest a result)
  · intro long
    by_cases fine : p
    · obtain ⟨a, result⟩ := answers.ok fine
      have long : ¬ q a := by
        intro rest
        refine long ⟨fine, fun b same => ?_⟩
        cases result.symm.trans same
        exact rest
      rw [result]
      exact (next a result).long long
    · obtain ⟨n, many, failed⟩ := answers.long fine
      exact ⟨n, many, by rw [failed]; rfl⟩

theorem map (answers : Answers p x) (f : α → Attempt β) (done : ∀ a, ∃ b, f a = .ok b) :
    Answers p (x >>= f) := by
  refine (answers.bind (q := fun _ => True) fun a _ => ?_).congr (by simp)
  obtain ⟨b, result⟩ := done a
  rw [result]
  exact of_ok b trivial

theorem mapM {p : α → Prop} {f : α → Attempt β} {items : List α}
    (each : ∀ a ∈ items, Answers (p a) (f a)) : Answers (∀ a ∈ items, p a) (items.mapM f) := by
  induction items with
  | nil => exact of_ok [] (by simp)
  | cons a items ih =>
      obtain ⟨first, others⟩ := List.forall_mem_cons.mp each
      rw [List.mapM_cons]
      refine (first.bind fun b _ => (ih others).map _ fun bs => ⟨b :: bs, rfl⟩).congr ?_
      rw [List.forall_mem_cons]
      refine and_congr_right fun fine => ?_
      obtain ⟨b, result⟩ := first.ok fine
      exact ⟨fun rest _ _ => rest, fun rest => rest b result⟩

theorem foldlM {p : α → Prop} {step : β → α → Attempt β} {items : List α}
    (each : ∀ a ∈ items, ∀ b, Answers (p a) (step b a)) (start : β) :
    Answers (∀ a ∈ items, p a) (items.foldlM step start) := by
  induction items generalizing start with
  | nil => exact of_ok start (by simp)
  | cons a items ih =>
      obtain ⟨first, others⟩ := List.forall_mem_cons.mp each
      rw [List.foldlM_cons]
      refine ((first start).bind fun b _ => ih others b).congr ?_
      rw [List.forall_mem_cons]
      refine and_congr_right fun fine => ?_
      obtain ⟨b, result⟩ := (first start).ok fine
      exact ⟨fun rest _ _ => rest, fun rest => rest b result⟩

end Answers

/-! ### Words -/

/-- A word does not begin with too many digits. -/
def HasFewDigits (w : Text) : Prop := (digitsOf w).length ≤ maxDigits

section

variable {w : Text} (word : Text.IsWord w)
include word

theorem answers_tokenValue : Answers (isIntToken w = true → HasFewDigits w) (tokenValue w) := by
  have bare : Text.trimWhile isMargin w = w :=
    Text.trimWhile_of_forall fun c member => isMargin_of_not_isBlank (word.2 c member)
  rw [tokenValue]
  split
  · rename_i whole
    obtain ⟨body, present⟩ := digitsOf_of_isIntToken whole
    have signed : sign w = ((sign w).1, digitsOf w) := by rw [← body]
    rw [readInt_of_signed bare signed (isDecimal_leadingDigits _) present]
    constructor
    · intro fine
      rw [if_neg (Nat.not_lt.mpr (fine whole))]
      exact ⟨_, rfl⟩
    · intro fine
      have many : maxDigits < (digitsOf w).length :=
        Nat.lt_of_not_le fun short => fine fun _ => short
      rw [if_pos many]
      exact ⟨_, many, rfl⟩
  · rename_i other
    have fine : isIntToken w = true → HasFewDigits w := fun whole => absurd whole other
    split
    · rename_i real
      obtain ⟨x, value⟩ := exists_readReal word real
      rw [value]
      exact .of_ok (Value.real x) fine
    · exact .of_ok (Value.text w) fine

theorem answers_numberValue : Answers (isIntToken w = true → HasFewDigits w) (numberValue w) := by
  refine (answers_tokenValue word).map _ fun v => ?_
  split
  · exact ⟨_, rfl⟩
  · exact ⟨_, rfl⟩

end

theorem answers_countValue (w : Text) : Answers (HasFewDigits w) (countValue w) := by
  rw [countValue]
  dsimp only
  split
  · rename_i none
    have none : digitsOf w = [] := List.isEmpty_iff.mp none
    exact .of_ok 0 (by rw [HasFewDigits, none]; exact Nat.zero_le _)
  · rename_i some
    have digits : IsDecimal (digitsOf w) := isDecimal_leadingDigits _
    have number : Answers (HasFewDigits w) (readInt (digitsOf w)) := by
      rw [readInt_of_isDecimal digits (mt List.isEmpty_iff.mpr some)]
      constructor
      · intro few
        exact ⟨_, if_neg (Nat.not_lt.mpr few)⟩
      · intro many
        exact ⟨_, Nat.lt_of_not_le many, if_pos (Nat.lt_of_not_le many)⟩
    exact number.map _ fun i => ⟨_, rfl⟩

/-! ### Texts -/

/-- The numerals of a field on some lines are not too long: for a list, its count, and those of its
    values that are counted. What does not count may be as long as it likes: the name of the output
    file, reals, labels. -/
def Field.IsReadable (ls : List Text) : Field → Prop
  | .single f =>
    ∀ w, firstWord ls[f.line]? = some w → f ≠ .outFile → isIntToken w = true → HasFewDigits w
  | .multi f =>
    (∀ w, firstWord ls[f.countLine]? = some w → HasFewDigits w) ∧
      ∀ n, countOn ls[f.countLine]? = .ok n →
        ∀ l, ls[f.valuesLine]? = some l →
          ∀ w ∈ (Text.words l).take n, isIntToken w = true → HasFewDigits w

theorem isWord_of_firstWord {line : Option Text} {w : Text} (first : firstWord line = some w) :
    Text.IsWord w := by
  obtain ⟨l, -, head⟩ := Option.bind_eq_some_iff.mp first
  exact Text.isWord_of_mem_words (List.mem_of_head? head)

theorem answers_countOn (line : Option Text) :
    Answers (∀ w, firstWord line = some w → HasFewDigits w) (countOn line) := by
  rw [countOn]
  cases first : firstWord line with
  | none => exact .of_ok 0 (by simp)
  | some w => exact (answers_countValue w).congr (by simp)

theorem answers_valuesOn (count : Nat) (line : Option Text) :
    Answers (∀ l, line = some l → ∀ w ∈ (Text.words l).take count,
      isIntToken w = true → HasFewDigits w) (valuesOn count line) := by
  cases line with
  | none => exact .of_ok [] (by simp)
  | some l =>
      have each : ∀ w ∈ (Text.words l).take count,
          Answers (isIntToken w = true → HasFewDigits w) (tokenValue w) := fun w member =>
        answers_tokenValue (Text.isWord_of_mem_words (List.mem_of_mem_take member))
      exact (Answers.mapM each).congr (by simp)

theorem answers_valueIn (ls : List Text) (f : Field) :
    Answers (f.IsReadable ls) (f.valueIn ls) := by
  cases f with
  | single f =>
      rw [Field.valueIn, Single.valueOn, Field.IsReadable]
      cases first : firstWord ls[f.line]? with
      | none => exact .of_ok Value.null (by simp)
      | some w =>
          dsimp only
          split
          · rename_i name
            exact .of_ok (Value.text w) (by simp [name])
          · rename_i other
            exact (answers_numberValue (isWord_of_firstWord first)).congr (by simp [other])
  | multi f =>
      have list := (answers_countOn ls[f.countLine]?).bind fun n _ =>
        answers_valuesOn n ls[f.valuesLine]?
      exact list.map _ fun vs => ⟨_, rfl⟩

/-- The configuration on some lines can be read if each field can. -/
theorem answers_ofLines (ls : List Text) :
    Answers (∀ f : Field, f.IsReadable ls) (Config.ofLines ls) := by
  have each (f : Field) (c : Config) :
      Answers (f.IsReadable ls) (do return c.set (← f.valueIn ls) f : Attempt Config) :=
    (answers_valueIn ls f).map _ fun v => ⟨_, rfl⟩
  exact (Answers.foldlM (fun f _ => each f) {}).congr (by simp [Field.mem_all])

theorem answers_read (s : Text) :
    Answers ((usableLines s).length < 3 ∨ ∀ f : Field, f.IsReadable (usableLines s)) (read s) := by
  rw [read_eq]
  split
  · rename_i few
    exact .of_ok none (.inl few)
  · rename_i many
    have made : Answers _ (Config.ofLines (usableLines s) >>= fun c => .ok (some c)) :=
      (answers_ofLines _).map _ fun c => ⟨_, rfl⟩
    exact made.congr (by simp [many])

/-- **The reader answers every text whose numerals are not too long.** Whatever else a text holds,
    the reader gives nothing or a configuration; it stops only over a whole number that it needs and
    that has too many digits. -/
theorem read_answers_iff (s : Text) :
    ((∃ r, read s = .ok r) ↔
      (usableLines s).length < 3 ∨ ∀ f : Field, f.IsReadable (usableLines s)) ∧
    ∀ e, read s = .error e → ∃ n, maxDigits < n ∧ e = .longNumeral n := by
  refine ⟨(answers_read s).ok_iff, fun e failed => ?_⟩
  have stopped : ¬ ∃ r, read s = .ok r := by
    rintro ⟨r, result⟩
    cases failed.symm.trans result
  obtain ⟨n, many, long⟩ := (answers_read s).long (mt (answers_read s).ok_iff.mpr stopped)
  exact ⟨n, many, Except.error.inj (failed.symm.trans long)⟩

/-- One, after many zeros. -/
def zeroPadded (zeros : Nat) : Text := Text.copies zeros '0' ++ [.char '1']

/-- A text that has one problem size, as its count says with so many zeros in front. -/
def withPaddedCount (zeros : Nat) : Text :=
  Text.unlines ["h1", "h2", "HPL.out", "6", zeroPadded zeros, "29"]

theorem mem_zeroPadded {zeros : Nat} {c : CodePoint} (member : c ∈ zeroPadded zeros) :
    c = '0' ∨ c = '1' := by
  rcases List.mem_append.mp member with zero | one
  · exact .inl (List.eq_of_mem_replicate zero)
  · exact .inr (List.mem_singleton.mp one)

theorem isWord_zeroPadded (zeros : Nat) : Text.IsWord (zeroPadded zeros) := by
  refine ⟨by simp [zeroPadded], fun c member => ?_⟩
  rcases mem_zeroPadded member with rfl | rfl <;> decide

theorem digitsOf_zeroPadded (zeros : Nat) : digitsOf (zeroPadded zeros) = zeroPadded zeros := by
  have digits : IsDigits (zeroPadded zeros) := by
    intro c member
    rcases mem_zeroPadded member with rfl | rfl <;> decide
  have unsigned : sign (zeroPadded zeros) = (false, zeroPadded zeros) := by
    cases zeros <;> rfl
  have run := leadingDigits_append digits Stops.nil
  rw [List.append_nil] at run
  rw [digitsOf, unsigned, run]

theorem usableLines_withPaddedCount (zeros : Nat) :
    (usableLines (withPaddedCount zeros)).length = 6 ∧
      firstWord (usableLines (withPaddedCount zeros))[Multi.ns.countLine]? =
        some (zeroPadded zeros) := by
  have word := isWord_zeroPadded zeros
  have words := Text.words_eq_singleton word
  have others : ∀ l ∈ (["h1", "h2", "HPL.out", "6", "29"] : List Text), IsLine l := by
    unfold IsLine
    decide
  have lines : usableLines (withPaddedCount zeros) = _ :=
    usableLines_unlines (by simp) (by
      intro l member
      by_cases count : l = zeroPadded zeros
      · subst count
        exact ⟨by simp [words], word.newline_not_mem⟩
      · exact others l (by simpa [count] using member))
  rw [lines]
  exact ⟨rfl, by simp [firstWord, Multi.countLine, words]⟩

/-- A count of more digits than are read stops the reader, though it stands for one. -/
theorem not_read_withPaddedCount : ¬ ∃ r, read (withPaddedCount maxDigits) = .ok r := by
  rw [(answers_read _).ok_iff]
  obtain ⟨length, count⟩ := usableLines_withPaddedCount maxDigits
  rintro (few | readable)
  · omega
  · obtain ⟨short, -⟩ := readable (.multi .ns)
    have short : (digitsOf (zeroPadded maxDigits)).length ≤ maxDigits := short _ count
    rw [digitsOf_zeroPadded] at short
    simp [zeroPadded, Text.copies] at short

end Hpl

end ClusterPrep
