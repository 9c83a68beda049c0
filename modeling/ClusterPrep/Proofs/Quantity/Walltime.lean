import ClusterPrep.Proofs.Attempt
import ClusterPrep.Proofs.Number.WholeNumerals
import ClusterPrep.Quantity.Walltime
import Mathlib.Logic.Equiv.Defs
import Mathlib.Logic.Function.Basic

set_option autoImplicit false

/-
  Wall clock times as texts. What is read is up to three fields with colons between them, after a
  number of days and a dash or without these. What is written is the canonical one of the texts that
  stand for the same time, and there is one canonical text for every time that can be written.
-/
namespace ClusterPrep.Walltime

open Numeral

/-! ### What is read -/

/-- The seconds of some days and the fields of a clock. -/
def secondsOf (days : Int) (fields : List Int) : Int :=
  days * 86400 + fields.foldl (fun n f => 60 * n + f) 0

/-- The parts stand for the fields of a clock, three at most. -/
structure ClockParts (parts : List Text) (fields : List Int) : Prop where
  nonempty : parts ≠ []
  few : parts.length ≤ 3
  reads : List.Forall₂ (fun p i => readInt p = .ok i) parts fields

/-- The texts that are read as times, with their days and fields. The dash that ends the days is the
    first one of the text. -/
inductive Spells : Text → Option Int → List Int → Prop
  | plain {parts : List Text} {fields : List Int} (clock : ClockParts parts fields)
      (undashed : .char '-' ∉ Text.joinWith [.char ':'] parts) :
      Spells (Text.joinWith [.char ':'] parts) none fields
  | dated {front : Text} {days : Int} {parts : List Text} {fields : List Int}
      (counted : readInt front = .ok days) (undashed : .char '-' ∉ front)
      (clock : ClockParts parts fields) :
      Spells (front ++ .char '-' :: Text.joinWith [.char ':'] parts) (some days) fields

theorem readFields_eq_mapM (parts : List Text) : readFields parts = parts.mapM readInt := by
  induction parts with
  | nil => rfl
  | cons p parts ih => rw [readFields, List.mapM_cons, ih]

theorem readFields_eq_ok_iff {parts : List Text} {fields : List Int} :
    readFields parts = .ok fields ↔
      List.Forall₂ (fun p i => readInt p = .ok i) parts fields := by
  rw [readFields_eq_mapM, Attempt.mapM_eq_ok_iff]

theorem colon_not_mem_of_reads {parts : List Text} {fields : List Int}
    (reads : List.Forall₂ (fun p i => readInt p = .ok i) parts fields) :
    ∀ p ∈ parts, .char ':' ∉ p := by
  intro p member
  obtain ⟨i, -, read⟩ := Attempt.exists_of_mem_right reads.flip member
  exact colon_not_mem_of_readInt read

theorem readClock_eq_ok_iff {s : Text} {i : Int} :
    readClock s = .ok i ↔ ∃ parts fields, ClockParts parts fields ∧
      s = Text.joinWith [.char ':'] parts ∧ i = secondsOf 0 fields := by
  have worth (fields : List Int) :
      secondsOf 0 fields = fields.foldl (fun n f => 60 * n + f) 0 := by
    rw [secondsOf, Int.zero_mul, Int.zero_add]
  constructor
  · intro read
    rw [readClock] at read
    split at read
    · cases read
    · rename_i few
      obtain ⟨fields, reads, same⟩ := Attempt.exists_of_bind read
      refine ⟨Text.pieces ':' s, fields, ?_, (Text.joinWith_pieces ':' s).symm, ?_⟩
      · exact ⟨Text.pieces_ne_nil ':' s, Nat.le_of_not_lt few, readFields_eq_ok_iff.mp reads⟩
      · rw [worth]
        exact (Except.ok.inj same).symm
  · rintro ⟨parts, fields, clock, rfl, rfl⟩
    have outside := colon_not_mem_of_reads clock.reads
    rw [readClock, Text.pieces_joinWith clock.nonempty outside, if_neg (Nat.not_lt.mpr clock.few),
      readFields_eq_ok_iff.mpr clock.reads, worth]
    rfl

/-- The seconds of a clock, after some days. -/
theorem secondsOf_eq_add (days : Int) (fields : List Int) :
    secondsOf days fields = days * 86400 + secondsOf 0 fields := by
  rw [secondsOf, secondsOf, Int.zero_mul, Int.zero_add]

/-- A text that is read as a time is not empty, as there is something in each field. -/
theorem Spells.ne_nil {t : Text} {days : Option Int} {fields : List Int}
    (spells : Spells t days fields) : t ≠ [] := by
  cases spells with
  | @plain parts fields clock undashed =>
      obtain ⟨p, listed⟩ := List.exists_mem_of_ne_nil parts clock.nonempty
      obtain ⟨i, -, read⟩ := Attempt.exists_of_mem_right clock.reads.flip listed
      obtain ⟨c, inside, -⟩ := exists_not_isMargin_of_readInt read
      exact List.ne_nil_of_mem (Text.mem_joinWith_of_mem listed inside)
  | dated => exact List.append_ne_nil_of_right_ne_nil _ (List.cons_ne_nil _ _)

/-- A text is divided at its first dash. -/
theorem eq_of_dash {front clock front' clock' : Text} (undashed : .char '-' ∉ front)
    (undashed' : .char '-' ∉ front')
    (same : front ++ .char '-' :: clock = front' ++ .char '-' :: clock') :
    front = front' ∧ clock = clock' := by
  have cuts := congrArg (Text.cut '-') same
  rw [Text.cut_append _ _ _ undashed, Text.cut_append _ _ _ undashed'] at cuts
  cases cuts
  exact ⟨rfl, rfl⟩

/-- **What is read as a time.** -/
theorem read_eq_ok_iff {s : Text} {i : Int} :
    read s = .ok i ↔ ∃ days fields, Spells (Text.strip s) days fields ∧
      i = secondsOf (days.getD 0) fields := by
  rw [read]
  generalize Text.strip s = t
  dsimp only
  by_cases empty : t = []
  · subst empty
    constructor
    · intro done
      cases done
    · rintro ⟨days, fields, spells, -⟩
      exact absurd rfl spells.ne_nil
  rw [if_neg (by rwa [List.isEmpty_iff])]
  by_cases dash : .char '-' ∈ t
  · obtain ⟨front, clock, rfl, undashed⟩ := List.eq_append_cons_of_mem dash
    rw [Text.cut_append _ _ _ undashed]
    dsimp only
    constructor
    · intro done
      obtain ⟨days, counted, done⟩ := Attempt.exists_of_bind done
      obtain ⟨n, read, same⟩ := Attempt.exists_of_bind done
      obtain ⟨parts, fields, clock, rfl, rfl⟩ := readClock_eq_ok_iff.mp read
      refine ⟨some days, fields, .dated counted undashed clock, ?_⟩
      rw [Option.getD_some, secondsOf_eq_add]
      exact (Except.ok.inj same).symm
    · rintro ⟨days?, fields, spells, rfl⟩
      generalize same : front ++ .char '-' :: clock = t at spells
      cases spells with
      | plain clock undashed' => exact absurd (same ▸ dash) undashed'
      | @dated front' days parts fields counted undashed' parted =>
          obtain ⟨rfl, rfl⟩ := eq_of_dash undashed undashed' same
          rw [counted, Option.getD_some, secondsOf_eq_add,
            readClock_eq_ok_iff.mpr ⟨parts, fields, parted, rfl, rfl⟩]
          rfl
  · rw [Text.cut_of_not_mem dash]
    dsimp only
    rw [readClock_eq_ok_iff]
    constructor
    · rintro ⟨parts, fields, clock, rfl, rfl⟩
      exact ⟨none, fields, .plain clock dash, rfl⟩
    · rintro ⟨days?, fields, spells, rfl⟩
      cases spells with
      | plain clock => exact ⟨_, fields, clock, rfl, rfl⟩
      | dated => exact absurd (List.mem_append_right _ List.mem_cons_self) dash

theorem kind_of_readClock {s : Text} {e : Failure} (refused : readClock s = .error e) :
    e.kind = .badValue := by
  rw [readClock] at refused
  split at refused
  · cases refused
    rfl
  · rcases Attempt.error_of_bind refused with refused | ⟨fields, -, refused⟩
    · rw [readFields_eq_mapM] at refused
      obtain ⟨p, -, refused⟩ := Attempt.mapM_eq_error refused
      exact kind_of_readInt refused
    · cases refused

/-- A text that is no time is a bad value. -/
theorem kind_of_read {s : Text} {e : Failure} (refused : read s = .error e) :
    e.kind = .badValue := by
  rw [read] at refused
  dsimp only at refused
  split at refused
  · cases refused
    rfl
  · dsimp only [pure, Except.pure, bind, Except.bind] at refused
    split at refused
    · rcases Attempt.error_of_bind refused with refused | ⟨days, -, refused⟩
      · exact kind_of_readInt refused
      · rcases Attempt.error_of_bind refused with refused | ⟨clock, -, refused⟩
        · exact kind_of_readClock refused
        · cases refused
    · exact kind_of_readClock refused

/-! ### What is written -/

/-- The times that are not too long to be written. -/
def Writable (n : Nat) : Prop := (ofNat (n / 86400)).length ≤ maxDigits

instance (n : Nat) : Decidable (Writable n) := inferInstanceAs (Decidable (_ ≤ _))

/-- The clock of a time. -/
def clockText (n : Nat) : Text :=
  twoDigits (n / 3600 % 24) ++ ":" ++ twoDigits (n / 60 % 60) ++ ":" ++ twoDigits (n % 60)

/-- The text of a time. -/
def timeText (n : Nat) : Text :=
  if n / 86400 = 0 then clockText n else ofNat (n / 86400) ++ "-" ++ clockText n

theorem write_natCast (n : Nat) : write n =
    if Writable n then .ok (timeText n) else .error .longInteger := by
  have least : ¬ (n : Int) < 0 := Int.not_lt.mpr (Int.natCast_nonneg n)
  rw [write, if_neg least, Int.toNat_natCast]
  dsimp only
  by_cases none : n / 86400 = 0
  · have short : Writable n := by
      rw [Writable, none]
      decide
    rw [if_pos none, if_pos short, timeText, if_pos none]
    rfl
  · have worth : ofInt ((n / 86400 : Nat) : Int) = ofNat (n / 86400) := by
      rw [ofInt, if_neg (Int.not_lt.mpr (Int.natCast_nonneg _)), Int.natAbs_natCast]
    rw [if_neg none, timeText, if_neg none, writeInt, Int.natAbs_natCast, worth]
    by_cases short : Writable n
    · rw [if_pos short, if_neg (Nat.not_lt.mpr short)]
      rfl
    · rw [if_neg short, if_pos (Nat.lt_of_not_le short)]
      rfl

/-- What can be written are the times from zero on that are not too long. -/
theorem exists_write_iff {i : Int} : (∃ t, write i = .ok t) ↔ 0 ≤ i ∧ Writable i.toNat := by
  by_cases negative : i < 0
  · rw [write, if_pos negative]
    refine iff_of_false ?_ fun written => absurd written.1 (Int.not_le.mpr negative)
    rintro ⟨t, done⟩
    cases done
  · have least := Int.not_lt.mp negative
    obtain ⟨n, rfl⟩ := Int.eq_ofNat_of_zero_le least
    rw [write_natCast, Int.toNat_natCast, and_iff_right least]
    split
    · rename_i short
      exact iff_of_true ⟨_, rfl⟩ short
    · rename_i long
      refine iff_of_false ?_ long
      rintro ⟨t, done⟩
      cases done

/-- A time that cannot be written is a bad value. -/
theorem kind_of_write {i : Int} {e : Failure} (refused : write i = .error e) :
    e.kind = .badValue := by
  by_cases negative : i < 0
  · rw [write, if_pos negative] at refused
    cases refused
    rfl
  · obtain ⟨n, rfl⟩ := Int.eq_ofNat_of_zero_le (Int.not_lt.mp negative)
    rw [write_natCast] at refused
    split at refused
    · cases refused
    · cases refused
      rfl

/-! ### Canonical times -/

/-- Two digits of ASCII that stand for less than a limit. -/
structure IsField (limit : Nat) (s : Text) : Prop where
  digits : IsDigits s
  length : s.length = 2
  below : valueOf s < limit

/-- The hours, minutes and seconds of a day. -/
inductive IsClock : Text → Prop
  | of {h m s : Text} (hours : IsField 24 h) (minutes : IsField 60 m) (seconds : IsField 60 s) :
      IsClock (h ++ ":" ++ m ++ ":" ++ s)

/-- A number of days in digits of ASCII, without a zero in front. -/
structure IsDayCount (d : Text) : Prop where
  digits : IsDigits d
  nonempty : d ≠ []
  front : d.head? ≠ some (.char '0')
  short : d.length ≤ maxDigits

/-- The canonical texts of times: a clock, after a number of days if there are any. -/
inductive Canonical : Text → Prop
  | clock {c : Text} (clock : IsClock c) : Canonical c
  | dated {d c : Text} (days : IsDayCount d) (clock : IsClock c) : Canonical (d ++ "-" ++ c)

theorem valueOf_twoDigits (n : Nat) : valueOf (twoDigits n) = n := by
  rw [twoDigits, valueOf_append, valueOf_zeros, Nat.zero_mul, Nat.zero_add, valueOf_ofNat]

theorem isDigits_twoDigits (n : Nat) : IsDigits (twoDigits n) :=
  (IsDigits.zeros _).append (.ofNat n)

theorem isField_twoDigits {n limit : Nat} (below : n < limit) (small : limit ≤ 100) :
    IsField limit (twoDigits n) where
  digits := isDigits_twoDigits n
  length := by
    have few : (ofNat n).length ≤ 2 := (length_ofNat_le (by decide)).mpr (by omega)
    rw [twoDigits, List.length_append, Text.copies, List.length_replicate]
    exact Nat.sub_add_cancel few
  below := by rwa [valueOf_twoDigits]

theorem IsField.twoDigits_valueOf {limit : Nat} {s : Text} (field : IsField limit s)
    (small : limit ≤ 100) : twoDigits (valueOf s) = s := by
  have again := isField_twoDigits field.below small
  exact eq_of_valueOf_eq again.digits field.digits (again.length.trans field.length.symm)
    (valueOf_twoDigits _)

theorem IsDayCount.positive {d : Text} (days : IsDayCount d) : 0 < valueOf d := by
  obtain ⟨digits, nonempty, front, -⟩ := days
  cases d with
  | nil => exact absurd rfl nonempty
  | cons c d =>
      have head := digits c List.mem_cons_self
      exact Nat.lt_of_lt_of_le (Nat.pow_pos (by decide))
        (pow_le_valueOf head fun zero => front (congrArg some zero))

theorem IsDayCount.ofNat_valueOf {d : Text} (days : IsDayCount d) : ofNat (valueOf d) = d :=
  Numeral.ofNat_valueOf days.digits days.nonempty days.front

theorem isDayCount_ofNat {n : Nat} (positive : 0 < n) (short : (ofNat n).length ≤ maxDigits) :
    IsDayCount (ofNat n) where
  digits := .ofNat n
  nonempty := ofNat_ne_nil n
  front := head?_ofNat_ne positive
  short := short

theorem isClock_clockText (n : Nat) : IsClock (clockText n) :=
  .of (isField_twoDigits (Nat.mod_lt _ (by decide)) (by decide))
    (isField_twoDigits (Nat.mod_lt _ (by decide)) (by decide))
    (isField_twoDigits (Nat.mod_lt _ (by decide)) (by decide))

/-- A clock is that of the seconds of its fields, on whatever day. -/
theorem IsClock.exists_seconds {c : Text} (clock : IsClock c) :
    ∃ r < 86400, ∀ days, clockText (days * 86400 + r) = c := by
  obtain ⟨hours, minutes, seconds⟩ := clock
  rename_i h m s
  have below := hours.below
  have below' := minutes.below
  have below'' := seconds.below
  refine ⟨valueOf h * 3600 + valueOf m * 60 + valueOf s, by omega, fun days => ?_⟩
  generalize same : days * 86400 + (valueOf h * 3600 + valueOf m * 60 + valueOf s) = n
  have hour : n / 3600 % 24 = valueOf h := by omega
  have minute : n / 60 % 60 = valueOf m := by omega
  have second : n % 60 = valueOf s := by omega
  rw [clockText, hour, minute, second, hours.twoDigits_valueOf (by decide),
    minutes.twoDigits_valueOf (by decide), seconds.twoDigits_valueOf (by decide)]

/-- The canonical texts are those that are written. -/
theorem canonical_iff {s : Text} : Canonical s ↔ ∃ n, Writable n ∧ timeText n = s := by
  constructor
  · intro canonical
    cases canonical with
    | clock clock =>
        obtain ⟨r, below, same⟩ := clock.exists_seconds
        have none : r / 86400 = 0 := Nat.div_eq_of_lt below
        refine ⟨r, ?_, ?_⟩
        · rw [Writable, none]
          decide
        · rw [timeText, if_pos none, ← same 0, Nat.zero_mul, Nat.zero_add]
    | @dated d c days clock =>
        obtain ⟨r, below, same⟩ := clock.exists_seconds
        have count : (valueOf d * 86400 + r) / 86400 = valueOf d := by omega
        refine ⟨valueOf d * 86400 + r, ?_, ?_⟩
        · rw [Writable, count, days.ofNat_valueOf]
          exact days.short
        · rw [timeText, count, if_neg (Nat.ne_of_gt days.positive), days.ofNat_valueOf, same]
  · rintro ⟨n, short, rfl⟩
    rw [timeText]
    split
    · exact .clock (isClock_clockText n)
    · rename_i some
      exact .dated (isDayCount_ofNat (Nat.pos_of_ne_zero some) short) (isClock_clockText n)

/-! ### What is written is read -/

theorem colon_eq : Text.ofString ":" = [.char ':'] := by decide

theorem dash_eq : Text.ofString "-" = [.char '-'] := by decide

theorem clockText_eq (n : Nat) : clockText n = Text.joinWith [.char ':']
    [twoDigits (n / 3600 % 24), twoDigits (n / 60 % 60), twoDigits (n % 60)] := by
  simp [clockText, Text.joinWith, colon_eq]

theorem clockParts_clockText (n : Nat) : ClockParts
    [twoDigits (n / 3600 % 24), twoDigits (n / 60 % 60), twoDigits (n % 60)]
    [((n / 3600 % 24 : Nat) : Int), ((n / 60 % 60 : Nat) : Int), ((n % 60 : Nat) : Int)] := by
  have reads {k : Nat} (below : k < 100) : readInt (twoDigits k) = .ok k := by
    obtain ⟨digits, length, -⟩ := isField_twoDigits below (Nat.le_refl 100)
    have nonempty : twoDigits k ≠ [] := by
      rintro empty
      rw [empty] at length
      cases length
    rw [readInt_of_isDigits digits nonempty (by rw [length]; decide), valueOf_twoDigits]
  refine ⟨List.cons_ne_nil _ _, Nat.le_refl 3, .cons (reads ?_) (.cons (reads ?_)
    (.cons (reads ?_) .nil))⟩
  all_goals omega

/-- The characters of a clock. -/
theorem isDigit_or_of_mem_clockText {n : Nat} {c : CodePoint} (member : c ∈ clockText n) :
    c.isDigit = true ∨ c = ':' := by
  rw [clockText_eq] at member
  rcases Text.mem_of_mem_joinWith member with colon | ⟨p, listed, inside⟩
  · exact .inr (List.mem_singleton.mp colon)
  · have digits : ∀ p ∈ [twoDigits (n / 3600 % 24), twoDigits (n / 60 % 60), twoDigits (n % 60)],
        IsDigits p := by
      simp only [List.forall_mem_cons]
      exact ⟨isDigits_twoDigits _, isDigits_twoDigits _, isDigits_twoDigits _,
        fun _ none => absurd none List.not_mem_nil⟩
    exact .inl (digits p listed c inside)

theorem strip_timeText (n : Nat) : Text.strip (timeText n) = timeText n := by
  have clear {c : CodePoint} (member : c ∈ clockText n) : Text.isBlank c = false := by
    rcases isDigit_or_of_mem_clockText member with digit | rfl
    · exact isBlank_of_isDigit digit
    · decide
  refine Text.trimWhile_of_forall fun c member => ?_
  rw [timeText] at member
  split at member
  · exact clear member
  · rw [List.mem_append, List.mem_append] at member
    rcases member with (member | member) | member
    · exact (IsDigits.ofNat _).clear c member
    · rw [dash_eq, List.mem_singleton] at member
      rw [member]
      decide
    · exact clear member

theorem spells_timeText {n : Nat} (short : Writable n) :
    ∃ days fields, Spells (timeText n) days fields ∧
      (n : Int) = secondsOf (days.getD 0) fields := by
  have undashed : .char '-' ∉ clockText n := by
    intro member
    rcases isDigit_or_of_mem_clockText member with digit | colon
    · exact absurd digit (by decide)
    · cases colon
  have parts := clockParts_clockText n
  rw [timeText]
  split
  · rename_i none
    rw [clockText_eq] at undashed ⊢
    refine ⟨Option.none, _, .plain parts undashed, ?_⟩
    simp only [secondsOf, Option.getD_none, List.foldl_cons, List.foldl_nil]
    omega
  · rename_i some
    have digits := IsDigits.ofNat (n / 86400)
    have counted : readInt (ofNat (n / 86400)) = .ok ((n / 86400 : Nat) : Int) := by
      rw [readInt_of_isDigits digits (ofNat_ne_nil _) short, valueOf_ofNat]
    have plain : .char '-' ∉ ofNat (n / 86400) := fun member =>
      absurd (digits _ member) (by decide)
    rw [dash_eq, List.append_assoc, List.singleton_append, clockText_eq]
    refine ⟨_, _, .dated counted plain parts, ?_⟩
    simp only [secondsOf, Option.getD_some, List.foldl_cons, List.foldl_nil]
    omega

theorem read_timeText {n : Nat} (short : Writable n) : read (timeText n) = .ok n := by
  obtain ⟨days, fields, spells, worth⟩ := spells_timeText short
  rw [← strip_timeText] at spells
  exact read_eq_ok_iff.mpr ⟨days, fields, spells, worth⟩

/-- **Writing and reading are inverse.** Every time that is not too long is read back from its text,
    and every canonical text is written again from its time: the times that can be written and the
    canonical texts correspond one to one. -/
theorem exists_equiv_canonical :
    (∀ n : Nat, Writable n → (do read (← write n)) = .ok (n : Int)) ∧
      (∀ s, Canonical s → (do write (← read s)) = .ok s) ∧
      ∃ e : {n // Writable n} ≃ {s // Canonical s}, ∀ n, write n.1 = .ok (e n).1 := by
  have written {n : Nat} (short : Writable n) : write n = .ok (timeText n) := by
    rw [write_natCast, if_pos short]
  refine ⟨fun n short => ?_, fun s canonical => ?_, ?_⟩
  · rw [written short]
    exact read_timeText short
  · obtain ⟨n, short, rfl⟩ := canonical_iff.mp canonical
    rw [read_timeText short]
    exact written short
  · let text (n : {n // Writable n}) : {s // Canonical s} :=
      ⟨timeText n.1, canonical_iff.mpr ⟨n.1, n.2, rfl⟩⟩
    have injective : text.Injective := by
      rintro ⟨n, short⟩ ⟨m, short'⟩ same
      have same : timeText n = timeText m := congrArg Subtype.val same
      have times := (read_timeText short).symm.trans (same ▸ read_timeText short')
      exact Subtype.ext (Int.ofNat.inj (Except.ok.inj times))
    have surjective : text.Surjective := by
      rintro ⟨s, canonical⟩
      obtain ⟨n, short, rfl⟩ := canonical_iff.mp canonical
      exact ⟨⟨n, short⟩, rfl⟩
    exact ⟨.ofBijective text ⟨injective, surjective⟩, fun n => written n.2⟩

theorem exists_equiv_canonical_day :
    (Writable 90061 ∧ (do read (← write 90061)) = .ok 90061) ∧
      Canonical "1-01:01:01" ∧
      (do write (← read "1-01:01:01")) = .ok (Text.ofString "1-01:01:01") := by
  have short : Writable 90061 := by decide
  have text : timeText 90061 = "1-01:01:01" := by decide
  have canonical : Canonical "1-01:01:01" := canonical_iff.mpr ⟨90061, short, text⟩
  exact ⟨⟨short, exists_equiv_canonical.1 90061 short⟩, canonical,
    exists_equiv_canonical.2.1 "1-01:01:01" canonical⟩

end ClusterPrep.Walltime
