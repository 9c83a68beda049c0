import ClusterPrep.Proofs.Quantity.Walltime

set_option autoImplicit false

/-
  The documented forms of wall clock times, `SS`, `MM:SS`, `HH:MM:SS` and `D-HH:MM:SS`, against what
  is read. Without days nothing else is read. After days, too few fields and negative ones are read
  as well, and times that are too long to be written.
-/
namespace ClusterPrep.Walltime

open Numeral

/-- The texts of the documented forms, with their seconds. The fields are whole numbers from zero
    on, in whatever way these are spelled. -/
inductive Documented : Text → Nat → Prop
  | seconds {s : Text} {k : Nat} (seconds : readInt s = .ok k) : Documented s k
  | minutes {m s : Text} {j k : Nat} (minutes : readInt m = .ok j) (seconds : readInt s = .ok k) :
      Documented (m ++ ":" ++ s) (60 * j + k)
  | hours {h m s : Text} {i j k : Nat} (hours : readInt h = .ok i) (minutes : readInt m = .ok j)
      (seconds : readInt s = .ok k) :
      Documented (h ++ ":" ++ m ++ ":" ++ s) (3600 * i + 60 * j + k)
  | days {d h m s : Text} {n i j k : Nat} (days : readInt d = .ok n) (hours : readInt h = .ok i)
      (minutes : readInt m = .ok j) (seconds : readInt s = .ok k) :
      Documented (d ++ "-" ++ h ++ ":" ++ m ++ ":" ++ s) (86400 * n + 3600 * i + 60 * j + k)

/-- Reading the text keeps to the documented forms: what is read is of one of them and worth its
    seconds, and can be written, and what is not read is refused as a bad value. -/
structure Conforms (s : Text) : Prop where
  documented : ∀ i, read s = .ok i → ∃ n : Nat, i = n ∧ Documented (Text.strip s) n
  written : ∀ i, read s = .ok i → ∃ t, write i = .ok t
  refused : ∀ e, read s = .error e → e.kind = .badValue

/-! ### After days -/

/-- With something in front of its first dash that is a whole number itself, a text is none. -/
theorem readInt_dash_ne {a b : Text} {i j : Int} (front : readInt a = .ok i) :
    readInt (a ++ .char '-' :: b) ≠ .ok j := by
  intro read
  obtain ⟨c, inside, other⟩ := exists_not_isMargin_of_readInt front
  rw [isMargin_of_readInt_dash read c inside] at other
  cases other

/-- No colon is in two whole numbers with a dash between them. -/
theorem colon_not_mem_dash {a b : Text} {i j : Int} (front : readInt a = .ok i)
    (back : readInt b = .ok j) : .char ':' ∉ a ++ .char '-' :: b := by
  rw [List.mem_append, List.mem_cons]
  rintro (member | colon | member)
  · exact colon_not_mem_of_readInt front member
  · cases colon
  · exact colon_not_mem_of_readInt back member

/-- The pieces of a text with days: the days are in the first one. -/
theorem pieces_of_dated {t : Text} {days : Int} {fields : List Int}
    (spells : Spells t (some days) fields) : ∃ front p ps, .char '-' ∉ front ∧
      readInt front = .ok days ∧ Text.pieces ':' t = (front ++ .char '-' :: p) :: ps ∧
      List.Forall₂ (fun p i => readInt p = .ok i) (p :: ps) fields := by
  cases spells with
  | @dated front _ parts _ counted undashed clock =>
      obtain ⟨nonempty, few, reads⟩ := clock
      cases parts with
      | nil => exact absurd rfl nonempty
      | cons p ps =>
          refine ⟨front, p, ps, undashed, counted, ?_, reads⟩
          have others := (List.forall_mem_cons.mp (colon_not_mem_of_reads reads)).2
          obtain ⟨i, is, first, -, rfl⟩ := List.forall₂_cons_left_iff.mp reads
          have outside : ∀ q ∈ (front ++ .char '-' :: p) :: ps, .char ':' ∉ q :=
            List.forall_mem_cons.mpr ⟨colon_not_mem_dash counted first, others⟩
          rw [List.append_cons, Text.append_joinWith_cons, List.append_assoc,
            List.singleton_append]
          exact Text.pieces_joinWith (List.cons_ne_nil _ _) outside

/-- The pieces of a text of a documented form: the first is a whole number, or there are three with
    days in front of them. -/
theorem Documented.pieces {t : Text} {n : Nat} (documented : Documented t n) :
    (∃ q qs i, Text.pieces ':' t = q :: qs ∧ readInt q = .ok i) ∨
      ∃ d h m s, ∃ n i j k : Nat, Text.pieces ':' t = [d ++ .char '-' :: h, m, s] ∧
        readInt d = .ok n ∧ readInt h = .ok i ∧ readInt m = .ok j ∧ readInt s = .ok k := by
  cases documented with
  | seconds seconds =>
      exact .inl ⟨_, _, _, Text.pieces_of_not_mem (colon_not_mem_of_readInt seconds), seconds⟩
  | minutes minutes seconds =>
      rw [colon_eq, List.append_assoc, List.singleton_append]
      exact .inl ⟨_, _, _, Text.pieces_append_of_not_mem (colon_not_mem_of_readInt minutes) _,
        minutes⟩
  | hours hours minutes seconds =>
      rw [colon_eq, List.append_assoc, List.append_assoc, List.append_assoc, List.singleton_append]
      exact .inl ⟨_, _, _, Text.pieces_append_of_not_mem (colon_not_mem_of_readInt hours) _, hours⟩
  | @days d h m s n i j k days hours minutes seconds =>
      refine .inr ⟨d, h, m, s, n, i, j, k, ?_, days, hours, minutes, seconds⟩
      have parted : d ++ "-" ++ h ++ ":" ++ m ++ ":" ++ s =
          (d ++ .char '-' :: h) ++ .char ':' :: (m ++ .char ':' :: s) := by
        simp only [dash_eq, colon_eq, List.append_assoc, List.cons_append,
          List.nil_append]
      rw [parted, Text.pieces_append_of_not_mem (colon_not_mem_dash days hours),
        Text.pieces_append_of_not_mem (colon_not_mem_of_readInt minutes),
        Text.pieces_of_not_mem (colon_not_mem_of_readInt seconds)]

/-- Of the texts with days, the documented ones have three fields, and none below zero. -/
theorem Documented.fields_of_dated {t : Text} {n : Nat} {days : Int} {fields : List Int}
    (documented : Documented t n) (spells : Spells t (some days) fields) :
    fields.length = 3 ∧ ∀ f ∈ fields, 0 ≤ f := by
  obtain ⟨front, p, ps, undashed, counted, pieces, reads⟩ := pieces_of_dated spells
  rcases documented.pieces with ⟨q, qs, i, pieces', read⟩ |
    ⟨d, h, m, s, n, i, j, k, pieces', counted', hours, minutes, seconds⟩
  · rw [pieces] at pieces'
    rw [← (List.cons.inj pieces').1] at read
    exact absurd read (readInt_dash_ne counted)
  · rw [pieces] at pieces'
    obtain ⟨same, rfl⟩ := List.cons.inj pieces'
    -- A dash in the days themselves would be the first one, with nothing but margins before it.
    have undashed' : .char '-' ∉ d := by
      intro dash
      obtain ⟨a, b, rfl, plain⟩ := List.eq_append_cons_of_mem dash
      rw [List.append_assoc, List.cons_append] at same
      obtain ⟨rfl, -⟩ := eq_of_dash undashed plain same
      exact readInt_dash_ne counted counted'
    obtain ⟨-, rfl⟩ := eq_of_dash undashed undashed' same
    have values : List.Forall₂ (fun p i => readInt p = .ok i) [p, m, s] [(i : Int), j, k] :=
      .cons hours (.cons minutes (.cons seconds .nil))
    have all := Except.ok.inj
      ((Attempt.mapM_eq_ok_iff.mpr reads).symm.trans (Attempt.mapM_eq_ok_iff.mpr values))
    rw [all]
    refine ⟨rfl, ?_⟩
    simp only [List.forall_mem_cons]
    exact ⟨Int.natCast_nonneg _, Int.natCast_nonneg _, Int.natCast_nonneg _,
      fun _ none => absurd none List.not_mem_nil⟩

/-! ### What is read in the documented forms -/

/-- One field, two or three. -/
theorem ClockParts.cases_fields {parts : List Text} {fields : List Int}
    (clock : ClockParts parts fields) :
    (∃ s k, parts = [s] ∧ fields = [k] ∧ readInt s = .ok k) ∨
      (∃ m s j k, parts = [m, s] ∧ fields = [j, k] ∧ readInt m = .ok j ∧ readInt s = .ok k) ∨
      ∃ h m s i j k, parts = [h, m, s] ∧ fields = [i, j, k] ∧ readInt h = .ok i ∧
        readInt m = .ok j ∧ readInt s = .ok k := by
  obtain ⟨nonempty, few, reads⟩ := clock
  cases reads with
  | nil => exact absurd rfl nonempty
  | cons first reads =>
      cases reads with
      | nil => exact .inl ⟨_, _, rfl, rfl, first⟩
      | cons second reads =>
          cases reads with
          | nil => exact .inr (.inl ⟨_, _, _, _, rfl, rfl, first, second⟩)
          | cons third reads =>
              cases reads with
              | nil => exact .inr (.inr ⟨_, _, _, _, _, _, rfl, rfl, first, second, third⟩)
              | cons => exact absurd few (by simp)

/-- The seconds of one field, two or three. -/
theorem secondsOf_natCast (days : Int) (i j k : Nat) :
    secondsOf days [(k : Int)] = days * 86400 + k ∧
      secondsOf days [(j : Int), k] = days * 86400 + (60 * j + k : Nat) ∧
      secondsOf days [(i : Int), j, k] = days * 86400 + (3600 * i + 60 * j + k : Nat) := by
  simp only [secondsOf, List.foldl_cons, List.foldl_nil]
  omega

theorem writable_of_lt {n : Nat} (below : n / 86400 < 10 ^ maxDigits) : Writable n :=
  (length_ofNat_le (by decide)).mpr below

/-- A text without days is of a documented form, and what is read can be written. -/
theorem documented_of_plain {t : Text} {fields : List Int} (spells : Spells t none fields) :
    ∃ n : Nat, secondsOf 0 fields = n ∧ Documented t n ∧ Writable n := by
  cases spells with
  | @plain parts _ clock undashed =>
      have value {p : Text} {i : Int} (member : p ∈ parts) (read : readInt p = .ok i) :
          ∃ k : Nat, i = k ∧ k < 10 ^ maxDigits := by
        have plain : .char '-' ∉ p := fun inside =>
          undashed (Text.mem_joinWith_of_mem member inside)
        obtain ⟨k, rfl⟩ := Int.eq_ofNat_of_zero_le (zero_le_of_readInt read plain)
        exact ⟨k, rfl, (length_ofNat_le (by decide)).mp (length_ofNat_of_readInt read)⟩
      have writable {n : Nat} := writable_of_lt (n := n)
      generalize 10 ^ maxDigits = limit at value writable
      rw [← colon_eq]
      rcases clock.cases_fields with ⟨s, k, rfl, rfl, seconds⟩ |
        ⟨m, s, j, k, rfl, rfl, minutes, seconds⟩ |
        ⟨h, m, s, i, j, k, rfl, rfl, hours, minutes, seconds⟩
      · obtain ⟨k, rfl, small⟩ := value (by simp) seconds
        refine ⟨k, ?_, .seconds seconds, writable (by omega)⟩
        rw [(secondsOf_natCast 0 0 0 k).1, Int.zero_mul, Int.zero_add]
      · obtain ⟨j, rfl, small⟩ := value (by simp) minutes
        obtain ⟨k, rfl, small'⟩ := value (by simp) seconds
        refine ⟨60 * j + k, ?_, .minutes minutes seconds, writable (by omega)⟩
        rw [(secondsOf_natCast 0 0 j k).2.1, Int.zero_mul, Int.zero_add]
      · obtain ⟨i, rfl, small⟩ := value (by simp) hours
        obtain ⟨j, rfl, small'⟩ := value (by simp) minutes
        obtain ⟨k, rfl, small''⟩ := value (by simp) seconds
        have parted : Text.joinWith ":" [h, m, s] = h ++ ":" ++ m ++ ":" ++ s := by
          simp only [Text.joinWith, List.append_assoc]
        rw [parted]
        refine ⟨3600 * i + 60 * j + k, ?_, .hours hours minutes seconds, writable (by omega)⟩
        rw [(secondsOf_natCast 0 i j k).2.2, Int.zero_mul, Int.zero_add]

/-- After days, three fields from zero on make a text of the documented form. -/
theorem documented_of_dated {t : Text} {days : Int} {fields : List Int}
    (spells : Spells t (some days) fields) (three : fields.length = 3)
    (nonneg : ∀ f ∈ fields, 0 ≤ f) : ∃ n : Nat, secondsOf days fields = n ∧ Documented t n := by
  cases spells with
  | @dated d _ parts _ counted undashed clock =>
      obtain ⟨n, rfl⟩ := Int.eq_ofNat_of_zero_le (zero_le_of_readInt counted undashed)
      rcases clock.cases_fields with ⟨s, k, rfl, rfl, seconds⟩ |
        ⟨m, s, j, k, rfl, rfl, minutes, seconds⟩ |
        ⟨h, m, s, i, j, k, rfl, rfl, hours, minutes, seconds⟩
      · cases three
      · cases three
      · simp only [List.forall_mem_cons] at nonneg
        obtain ⟨i, rfl⟩ := Int.eq_ofNat_of_zero_le nonneg.1
        obtain ⟨j, rfl⟩ := Int.eq_ofNat_of_zero_le nonneg.2.1
        obtain ⟨k, rfl⟩ := Int.eq_ofNat_of_zero_le nonneg.2.2.1
        refine ⟨86400 * n + 3600 * i + 60 * j + k, ?_, ?_⟩
        · rw [(secondsOf_natCast n i j k).2.2]
          omega
        · have parted : d ++ .char '-' :: Text.joinWith [.char ':'] [h, m, s] =
              d ++ "-" ++ h ++ ":" ++ m ++ ":" ++ s := by
            simp only [Text.joinWith, dash_eq, colon_eq, List.append_assoc, List.cons_append,
              List.nil_append]
          rw [parted]
          exact .days counted hours minutes seconds

/-- **What is read beyond the documented forms.** Reading a text keeps to the documented forms, and
    to times that can be written, exactly unless it has a number of days and after these one field
    or two, or a field below zero, or so much time that the days get too long. -/
theorem conforms_iff (s : Text) :
    Conforms s ↔ ∀ days fields, Spells (Text.strip s) (some days) fields →
      fields.length = 3 ∧ (∀ f ∈ fields, 0 ≤ f) ∧ Writable (secondsOf days fields).toNat := by
  constructor
  · rintro ⟨documented, written, -⟩ days fields spells
    have done : read s = .ok (secondsOf days fields) :=
      read_eq_ok_iff.mpr ⟨some days, fields, spells, rfl⟩
    obtain ⟨n, -, form⟩ := documented _ done
    obtain ⟨three, nonneg⟩ := form.fields_of_dated spells
    exact ⟨three, nonneg, (exists_write_iff.mp (written _ done)).2⟩
  · intro fits
    have forms {i : Int} (done : read s = .ok i) :
        ∃ n : Nat, i = n ∧ Documented (Text.strip s) n ∧ Writable n := by
      obtain ⟨days?, fields, spells, rfl⟩ := read_eq_ok_iff.mp done
      cases days? with
      | none => exact documented_of_plain spells
      | some days =>
          obtain ⟨three, nonneg, short⟩ := fits days fields spells
          obtain ⟨n, worth, form⟩ := documented_of_dated spells three nonneg
          rw [worth, Int.toNat_natCast] at short
          exact ⟨n, worth, form, short⟩
    refine ⟨fun i done => ?_, fun i done => ?_, fun e refused => kind_of_read refused⟩
    · obtain ⟨n, worth, form, -⟩ := forms done
      exact ⟨n, worth, form⟩
    · obtain ⟨n, rfl, -, short⟩ := forms done
      exact exists_write_iff.mpr ⟨Int.natCast_nonneg n, short⟩

/-- A dash in front of the seconds after the days makes a time below zero. -/
theorem not_conforms_negative : ¬ Conforms "0--5" := by
  intro conforms
  have done : read "0--5" = .ok (-5) := by decide +kernel
  obtain ⟨n, worth, -⟩ := conforms.documented _ done
  omega

end ClusterPrep.Walltime
