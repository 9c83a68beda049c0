import ClusterPrep.Proofs.Number.Digits
import ClusterPrep.Proofs.Text.Plain

set_option autoImplicit false

/-
  The texts of whole numbers, from both sides. Digits of ASCII are known by their number and what
  they are worth, so that the digits of a number are the only ones without a zero in front; digits
  of every script are read as the number that they stand for. And a text that is read as a whole
  number holds digits and underscores, with at most one sign in front of them and margins around.
-/
namespace ClusterPrep.Numeral

/-! ### Digits of ASCII -/

theorem eq_of_isDigit {c d : CodePoint} (first : c.isDigit = true) (second : d.isDigit = true)
    (worth : c.toNat - 48 = d.toNat - 48) : c = d := by
  have low := toNat_of_isDigit first
  have low' := toNat_of_isDigit second
  have same : c.toNat = d.toNat := by omega
  rw [← CodePoint.ofNat_toNat c, same, CodePoint.ofNat_toNat]

theorem valueOf_cons (c : CodePoint) (s : Text) :
    valueOf (c :: s) = (c.toNat - 48) * 10 ^ s.length + valueOf s := by
  have single : valueOf [c] = c.toNat - 48 := by simp [valueOf, ofDigits]
  rw [← single, ← valueOf_append, List.singleton_append]

theorem valueOf_lt {s : Text} (digits : IsDigits s) : valueOf s < 10 ^ s.length := by
  have small : ∀ d ∈ s.map fun c => c.toNat - 48, d < 10 := by
    intro d member
    obtain ⟨c, inside, rfl⟩ := List.mem_map.mp member
    have bounds := toNat_of_isDigit (digits c inside)
    omega
  have bound := ofDigits_lt small
  rwa [List.length_map] at bound

/-- As many digits that are worth as much are the same digits. -/
theorem eq_of_valueOf_eq {s t : Text} (digits : IsDigits s) (digits' : IsDigits t)
    (length : s.length = t.length) (worth : valueOf s = valueOf t) : s = t := by
  induction s generalizing t with
  | nil => exact (List.length_eq_zero_iff.mp length.symm).symm
  | cons c s ih =>
      cases t with
      | nil => cases length
      | cons d t =>
          obtain ⟨head, tail⟩ := (IsDigits.cons_iff c s).mp digits
          obtain ⟨head', tail'⟩ := (IsDigits.cons_iff d t).mp digits'
          have length : s.length = t.length := Nat.succ.inj length
          have below := valueOf_lt tail
          have below' := valueOf_lt tail'
          rw [valueOf_cons, valueOf_cons, length] at worth
          rw [length] at below
          have positive : 0 < 10 ^ t.length := Nat.pow_pos (by decide)
          have leading : c.toNat - 48 = d.toNat - 48 := by
            have quotient := congrArg (· / 10 ^ t.length) worth
            simpa only [Nat.mul_comm _ (10 ^ t.length), Nat.mul_add_div positive,
              Nat.div_eq_of_lt below, Nat.div_eq_of_lt below', Nat.add_zero] using quotient
          rw [leading] at worth
          rw [eq_of_isDigit head head' leading, ih tail tail' length (Nat.add_left_cancel worth)]

/-- Digits without a zero in front are worth a number of that length. -/
theorem pow_le_valueOf {c : CodePoint} {s : Text} (digit : c.isDigit = true) (front : c ≠ '0') :
    10 ^ s.length ≤ valueOf (c :: s) := by
  have nonzero : 1 ≤ c.toNat - 48 := by
    by_contra zero
    have worth : c.toNat - 48 = (CodePoint.char '0').toNat - 48 := by
      change c.toNat - 48 = 0
      omega
    exact front (eq_of_isDigit digit rfl worth)
  rw [valueOf_cons]
  exact Nat.le_add_right_of_le (Nat.le_mul_of_pos_left _ nonzero)

/-- They are the digits of that number. -/
theorem ofNat_valueOf {s : Text} (digits : IsDigits s) (nonempty : s ≠ [])
    (front : s.head? ≠ some (.char '0')) : ofNat (valueOf s) = s := by
  cases s with
  | nil => exact absurd rfl nonempty
  | cons c s =>
      have head := digits c List.mem_cons_self
      have least := pow_le_valueOf (s := s) head fun zero => front (congrArg some zero)
      have most : (ofNat (valueOf (c :: s))).length ≤ s.length + 1 :=
        (length_ofNat_le (Nat.succ_pos _)).mpr (valueOf_lt digits)
      have many : ¬ (ofNat (valueOf (c :: s))).length ≤ s.length := by
        intro few
        cases s with
        | nil => exact ofNat_ne_nil _ (List.length_eq_zero_iff.mp (Nat.le_zero.mp few))
        | cons d s =>
            have below := (length_ofNat_le (Nat.succ_pos _)).mp few
            exact absurd least (Nat.not_le.mpr below)
      refine eq_of_valueOf_eq (.ofNat _) digits ?_ (valueOf_ofNat _)
      rw [List.length_cons]
      omega

/-- No digits are needed in front of those of a number. -/
theorem head?_ofNat_ne {n : Nat} (positive : 0 < n) : (ofNat n).head? ≠ some (.char '0') := by
  intro front
  obtain ⟨s, digits⟩ := List.head?_eq_some_iff.mp front
  have tail := ((IsDigits.cons_iff _ s).mp (digits ▸ IsDigits.ofNat n)).2
  have worth : n = valueOf s := by
    rw [← valueOf_ofNat n, digits, valueOf_cons]
    exact (Nat.add_eq_right).mpr (Nat.zero_mul _)
  have below := valueOf_lt tail
  rw [← worth] at below
  cases s with
  | nil => exact absurd positive (by rw [worth]; decide)
  | cons c s =>
      have few := (length_ofNat_le (Nat.succ_pos _)).mpr below
      rw [digits] at few
      exact absurd few (Nat.not_le.mpr (Nat.lt_succ_self _))

/-! ### Digits of every script -/

/-- The number that decimal digits stand for, of whatever script they are. -/
def worth (s : Text) : Nat := ofDigits (values s)

/-- A decimal digit is one of the ten from the zero of its script on. -/
theorem exists_zero_of_isDecimalDigit {c : CodePoint} (digit : Text.isDecimalDigit c = true) :
    ∃ z ∈ Text.zeroDigits, z ≤ c.toNat ∧ c.toNat ≤ z + 9 := by
  obtain ⟨d, value⟩ := Option.isSome_iff_exists.mp digit
  rw [Text.digitValue?] at value
  split at value
  · split at value
    · rename_i bounds
      exact ⟨48, by decide, bounds⟩
    · cases value
  · obtain ⟨z, found, -⟩ := Option.map_eq_some_iff.mp value
    have within := List.find?_some found
    simp only [Bool.and_eq_true, decide_eq_true_eq] at within
    exact ⟨z, List.mem_of_find?_eq_some found, within⟩

theorem isBlank_of_isDecimalDigit {c : CodePoint} (digit : Text.isDecimalDigit c = true) :
    Text.isBlank c = false := by
  have apart : ∀ z ∈ Text.zeroDigits, ∀ span ∈ Text.blankSpans, z + 9 < span.1 ∨ span.2 < z := by
    decide
  obtain ⟨z, zero, least, most⟩ := exists_zero_of_isDecimalDigit digit
  cases blank : Text.isBlank c with
  | false => rfl
  | true =>
      obtain ⟨span, listed, above, below⟩ := Text.exists_span_of_isBlank blank
      have apart := apart z zero span listed
      omega

/-- Digits after a sign are read as the number that they stand for, unless they are too many. -/
theorem readInt_of_signed {s ds : Text} {neg : Bool} (bare : Text.trimWhile isMargin s = s)
    (signed : sign s = (neg, ds)) (digits : IsDecimal ds) (nonempty : ds ≠ []) :
    readInt s = if maxDigits < ds.length then .error (.longNumeral ds.length)
      else .ok (if neg then -(worth ds : Int) else worth ds) := by
  have run := digitRun_of_isDecimal digits Stops.nil false (.inr nonempty)
  rw [List.append_nil] at run
  rw [readInt, bare, signed]
  simp only [run, digits.length_values, ne_eq, not_true_eq_false, ↓reduceIte]
  rfl

theorem readInt_of_isDecimal {s : Text} (digits : IsDecimal s) (nonempty : s ≠ []) :
    readInt s = if maxDigits < s.length then .error (.longNumeral s.length) else .ok (worth s) := by
  have bare : Text.trimWhile isMargin s = s := Text.trimWhile_of_forall fun c member =>
    isMargin_of_not_isBlank (isBlank_of_isDecimalDigit (digits c member))
  have plain : sign s = (false, s) := by
    unfold sign
    split
    · exact absurd (digits _ List.mem_cons_self) (by decide)
    · exact absurd (digits _ List.mem_cons_self) (by decide)
    · rfl
  exact readInt_of_signed bare plain digits nonempty

/-- Digits of ASCII are read as the number that they are worth. -/
theorem readInt_of_isDigits {s : Text} (digits : IsDigits s) (nonempty : s ≠ [])
    (short : s.length ≤ maxDigits) : readInt s = .ok (valueOf s) := by
  rw [readInt_of_isDecimal digits.decimal nonempty, if_neg (Nat.not_lt.mpr short), worth,
    digits.values_eq, valueOf]

/-! ### What is written -/

theorem kind_of_writeInt {i : Int} {e : Failure} (refused : writeInt i = .error e) :
    e.kind = .badValue := by
  rw [writeInt] at refused
  split at refused
  · cases refused
    rfl
  · cases refused

theorem exists_writeInt_iff {i : Int} :
    (∃ t, writeInt i = .ok t) ↔ i.natAbs < 10 ^ maxDigits := by
  rw [← length_ofNat_le (by decide)]
  constructor
  · rintro ⟨t, done⟩
    by_contra long
    rw [writeInt, if_pos (Nat.lt_of_not_le long)] at done
    cases done
  · intro short
    exact ⟨ofInt i, writeInt_eq_ok i short⟩

/-! ### What is in the text of a whole number -/

/-- A run of digits that takes all of a text finds nothing else there but underscores. -/
theorem isDecimalDigit_or_of_digitRun {after : Bool} {s : Text} {ds : List Nat}
    (run : digitRun after s = some (ds, [])) :
    ∀ c ∈ s, Text.isDecimalDigit c = true ∨ c = '_' := by
  induction s generalizing after ds with
  | nil => simp
  | cons c s ih =>
      rw [digitRun] at run
      rw [List.forall_mem_cons]
      split at run
      · rename_i d digit
        obtain ⟨⟨es, rest⟩, others, same⟩ := Option.map_eq_some_iff.mp run
        cases same
        exact ⟨.inl (by rw [Text.isDecimalDigit, digit]; rfl), ih others⟩
      · split at run
        · cases run
        · split at run
          · rename_i line
            exact ⟨.inr line, ih run⟩
          · cases run

/-- A text that is read as a whole number is a run of digits but for its margins and its sign. -/
theorem exists_digitRun_of_readInt {s : Text} {i : Int} (read : readInt s = .ok i) :
    ∃ ds, digitRun false (sign (Text.trimWhile isMargin s)).2 = some (ds, []) ∧
      i = if (sign (Text.trimWhile isMargin s)).1 then -(ofDigits ds : Int) else ofDigits ds := by
  rw [readInt] at read
  generalize sign (Text.trimWhile isMargin s) = signed at read ⊢
  obtain ⟨neg, body⟩ := signed
  dsimp only at read ⊢
  split at read
  · cases read
  · rename_i ds rest run
    split at read
    · cases read
    · split at read
      · cases read
      · rename_i all
        rw [ne_eq, not_not] at all
        rw [all] at run
        exact ⟨ds, run, (Except.ok.inj read).symm⟩

theorem mem_sign_or (s : Text) {c : CodePoint} (member : c ∈ s) :
    c ∈ (sign s).2 ∨ c = '+' ∨ c = '-' := by
  unfold sign
  split
  · rcases List.mem_cons.mp member with plus | member
    · exact .inr (.inl plus)
    · exact .inl member
  · rcases List.mem_cons.mp member with minus | member
    · exact .inr (.inr minus)
    · exact .inl member
  · exact .inl member

/-- What may stand in the text of a whole number. -/
theorem sort_of_readInt {s : Text} {i : Int} (read : readInt s = .ok i) {c : CodePoint}
    (member : c ∈ s) : isMargin c = true ∨ c = '+' ∨ c = '-' ∨
      Text.isDecimalDigit c = true ∨ c = '_' := by
  obtain ⟨ds, run, -⟩ := exists_digitRun_of_readInt read
  rcases Text.mem_trimWhile_or (p := isMargin) member with inside | margin
  · rcases mem_sign_or _ inside with inside | plus | minus
    · exact .inr (.inr (.inr (isDecimalDigit_or_of_digitRun run c inside)))
    · exact .inr (.inl plus)
    · exact .inr (.inr (.inl minus))
  · exact .inl margin

/-- No colon is in the text of a whole number, so that it can stand between such texts. -/
theorem colon_not_mem_of_readInt {s : Text} {i : Int} (read : readInt s = .ok i) :
    .char ':' ∉ s := by
  intro member
  have sort := sort_of_readInt read member
  revert sort
  decide

/-- A text without a dash is read as no number below zero. -/
theorem zero_le_of_readInt {s : Text} {i : Int} (read : readInt s = .ok i)
    (undashed : .char '-' ∉ s) : 0 ≤ i := by
  obtain ⟨ds, -, worth⟩ := exists_digitRun_of_readInt read
  have plain : (sign (Text.trimWhile isMargin s)).1 = false := by
    unfold sign
    split
    · rfl
    · rename_i front
      have inside : .char '-' ∈ Text.trimWhile isMargin s := by
        rw [front]
        exact List.mem_cons_self
      exact absurd (Text.mem_of_mem_trimWhile inside) undashed
    · rfl
  rw [worth, plain]
  exact Int.natCast_nonneg _

/-- In a text that is read as a whole number there is something other than margins. -/
theorem exists_not_isMargin_of_readInt {s : Text} {i : Int} (read : readInt s = .ok i) :
    ∃ c ∈ s, isMargin c = false := by
  by_contra none
  have blank : s.dropWhile isMargin = [] := by
    rw [List.dropWhile_eq_nil_iff]
    intro c member
    by_contra other
    exact none ⟨c, member, Bool.eq_false_iff.mpr other⟩
  obtain ⟨ds, run, -⟩ := exists_digitRun_of_readInt read
  rw [Text.trimWhile, blank] at run
  cases run

/-- Before a dash in the text of a whole number there are margins only. -/
theorem isMargin_of_readInt_dash {a b : Text} {i : Int}
    (read : readInt (a ++ .char '-' :: b) = .ok i) : ∀ c ∈ a, isMargin c = true := by
  intro c member
  by_contra other
  have stays : ∃ c ∈ a, isMargin c = false := ⟨c, member, Bool.eq_false_iff.mpr other⟩
  have dashed : ∃ d ∈ .char '-' :: b, isMargin d = false := ⟨.char '-', by simp, by decide⟩
  have dash : .char '-' ∈ Text.dropRightWhile isMargin (.char '-' :: b) := by
    have kept : Text.trimWhile isMargin (.char '-' :: b) =
        Text.dropRightWhile isMargin (.char '-' :: b) := by
      rw [Text.trimWhile, List.dropWhile_cons_of_neg (by decide)]
    rw [← kept]
    exact (Text.mem_trimWhile_or List.mem_cons_self).resolve_right (by decide)
  obtain ⟨ds, run, -⟩ := exists_digitRun_of_readInt read
  rw [Text.trimWhile_append_of_exists stays dashed] at run
  cases front : a.dropWhile isMargin with
  | nil => exact other (List.dropWhile_eq_nil_iff.mp front c member)
  | cons d rest =>
      -- The sign is at most the first of the characters in front of the dash.
      have inside : .char '-' ∈
          (sign (d :: rest ++ Text.dropRightWhile isMargin (.char '-' :: b))).2 := by
        unfold sign
        split <;> rename_i same
        · cases same
          exact List.mem_append_right _ dash
        · cases same
          exact List.mem_append_right _ dash
        · exact List.mem_append_right _ dash
      rw [front] at run
      have sort := isDecimalDigit_or_of_digitRun run _ inside
      revert sort
      decide

end ClusterPrep.Numeral
