import ClusterPrep.Preset.Store
import ClusterPrep.Proofs.Hpl.Check
import ClusterPrep.Proofs.Hpl.Fields
import ClusterPrep.Proofs.Json.Literal

set_option autoImplicit false

/-
  What comes of loading a preset, whatever is in its file. Bytes that cannot be read and values that
  hold no field of a configuration are refused with a notice. A configuration is loaded unless it
  has a whole number beyond the reals where a number is wanted: checking that one fails.
-/
namespace ClusterPrep

/-! ### Configurations from tables -/

namespace Hpl.Config

open Value (IsShort)

theorem isShort_fitted (f : Field) {v : Value} (short : IsShort v) : IsShort (f.fitted v) := by
  cases f with
  | single f => exact short
  | multi f =>
      cases v with
      | list vs => exact short
      | _ => exact .list (by simpa [Field.fitted] using short)

theorem isShort_default (f : Field) : IsShort (({} : Config).get f) := by
  have one {v : Value} (short : IsShort v) : IsShort (.list [v]) :=
    .list (by simpa using short)
  cases f with
  | single f =>
      cases f with
      | outFile => exact .text _
      | threshold => exact .real _
      | _ => exact .int (by decide)
  | multi f => cases f <;> exact one (.int (by decide))

theorem isShort_set {c : Config} (start : ∀ f, IsShort (c.get f)) {v : Value} (short : IsShort v)
    (f g : Field) : IsShort ((c.set v f).get g) := by
  by_cases same : g = f
  · rw [same, get_set_self]
    exact isShort_fitted f short
  · rw [get_set_of_ne _ _ same]
    exact start g

/-- The configuration of a table holds its values and defaults. -/
theorem isShort_ofTable {fields : List (Text × Value)} (short : ∀ kv ∈ fields, IsShort kv.2) :
    ∀ f, IsShort ((ofTable fields).get f) := by
  -- The fold is followed from any configuration, not from the default alone.
  rw [ofTable]
  have start := isShort_default
  generalize ({} : Config) = c at start ⊢
  induction fields generalizing c with
  | nil => exact start
  | cons kv fields ih =>
      refine ih (fun kv member => short kv (List.mem_cons_of_mem _ member)) _ ?_
      intro g
      dsimp only
      split
      · rename_i f known
        exact isShort_set start (short kv List.mem_cons_self) f g
      · exact start g

end Hpl.Config

/-! ### Checks of what was read -/

namespace Hpl

/-- A value that is no whole number beyond the reals. -/
def Within : Value → Prop
  | .int i => (Binary64.ofInt i).isFinite = true
  | _ => True

theorem exists_isNumber_iff {v : Value} : (∃ proper, isNumber v = .ok proper) ↔ Within v := by
  cases v with
  | int i =>
      rw [isNumber]
      constructor
      · rintro ⟨proper, number⟩
        obtain ⟨x, within, -⟩ := Attempt.exists_of_bind number
        exact Binary64.isFinite_of_unlessInfinite (Binary64.ofInt_ne_nan i) within
      · intro finite
        rw [Binary64.ofInt?, Binary64.unlessInfinite_of_isFinite finite]
        exact ⟨true, rfl⟩
  | _ => exact iff_of_true ⟨_, rfl⟩ trivial

/-- A configuration without whole numbers beyond the reals where a number is wanted. -/
structure Config.Within (c : Config) : Prop where
  single : ∀ f, f ≠ .outFile → Hpl.Within (c.single f)
  multi : ∀ f, ∀ v ∈ c.multi f, Hpl.Within v

theorem isShort_of_mem_multi {c : Config} (short : ∀ f, (c.get f).IsShort) {f : Multi} {v : Value}
    (member : v ∈ c.multi f) : v.IsShort := by
  cases short (.multi f) with
  | list items => exact items v member

/-- A configuration that can be shown is checked to the end exactly if it is within the reals. -/
theorem exists_problems_iff {c : Config} (short : ∀ f, (c.get f).IsShort) :
    (∃ found, problems c .null = .ok found) ↔ c.Within := by
  constructor
  · rintro ⟨found, checked⟩
    obtain ⟨multi, single⟩ := isNumber_of_problems checked
    exact ⟨fun f other => exists_isNumber_iff.mp (single f other),
      fun f v member => exists_isNumber_iff.mp (multi f v member)⟩
  · intro within
    exact exists_problems
      (fun f v member => exists_isNumber_iff.mpr (within.multi f v member))
      (fun f v member => (isShort_of_mem_multi short member).exists_literal)
      (fun f other => exists_isNumber_iff.mpr (within.single f other)) (Or.inl rfl)

theorem error_of_isNumber {v : Value} {e : Failure} (failed : isNumber v = .error e) :
    e = .realOfLargeInteger := by
  cases v with
  | int i =>
      rcases Attempt.error_of_bind failed with large | ⟨x, -, done⟩
      · rw [Binary64.ofInt?] at large
        cases rounded : Binary64.ofInt i <;> rw [rounded] at large <;> cases large
        rfl
      · cases done
  | _ => cases failed

theorem error_of_nonNumbers {vs : List Value} {e : Failure} (failed : nonNumbers vs = .error e) :
    e = .realOfLargeInteger := by
  induction vs with
  | nil => cases failed
  | cons v vs ih =>
      rcases Attempt.error_of_bind failed with first | ⟨proper, -, failed⟩
      · exact error_of_isNumber first
      rcases Attempt.error_of_bind failed with rest | ⟨bad, -, done⟩
      · exact ih rest
      · cases done

section

variable {c : Config} {e : Failure}

theorem error_of_multiProblems {f : Multi} (literals : ∀ v ∈ c.multi f, ∃ s, v.literal = .ok s)
    (failed : multiProblems c f = .error e) : e = .realOfLargeInteger := by
  rw [multiProblems] at failed
  split at failed
  · cases failed
  rcases Attempt.error_of_bind failed with large | ⟨bad, made, failed⟩
  · exact error_of_nonNumbers large
  cases bad with
  | nil =>
      dsimp only at failed
      split at failed <;> cases failed
  | cons v bad =>
      obtain ⟨bad', made', among⟩ := exists_nonNumbers (isNumber_of_nonNumbers made)
      obtain rfl : v :: bad = bad' := Except.ok.inj (made.symm.trans made')
      obtain ⟨s, shown⟩ := literals v (among v List.mem_cons_self)
      simp only [shown, bind, Except.bind, pure, Except.pure] at failed
      cases failed

theorem error_of_singleProblems {f : Single} (failed : singleProblems c f = .error e) :
    e = .realOfLargeInteger := by
  rw [singleProblems] at failed
  split at failed
  · cases failed
  · rcases Attempt.error_of_bind failed with large | ⟨proper, -, done⟩
    · exact error_of_isNumber large
    · cases done

/-- A configuration that can be shown is checked to the end but for numbers beyond the reals. -/
theorem error_of_problems (short : ∀ f, (c.get f).IsShort)
    (failed : problems c .null = .error e) : e = .realOfLargeInteger := by
  rcases Attempt.error_of_bind failed with lists | ⟨ls, -, failed⟩
  · obtain ⟨f, -, stopped⟩ := Attempt.mapM_eq_error lists
    exact error_of_multiProblems
      (fun v member => (isShort_of_mem_multi short member).exists_literal) stopped
  rcases Attempt.error_of_bind failed with singles | ⟨ss, -, done⟩
  · obtain ⟨f, -, stopped⟩ := Attempt.mapM_eq_error singles
    exact error_of_singleProblems stopped
  · cases done

end

end Hpl

namespace Preset

variable {nesting : Nesting}

/-- What a preset file can hold so that it can be listed: anything that is not nested too deeply,
    with no whole number beyond the reals where the configuration has a number. -/
def Showable (nesting : Nesting) (bytes : List UInt8) : Prop :=
  match Store.parse bytes nesting with
  | .error reason => ∀ kind, reason ≠ .tooDeep kind
  | .ok v => ∀ fields, Store.knownFields? v = some fields → (Hpl.Config.ofTable fields).Within

theorem isShort_of_parse {bytes : List UInt8} {v : Value}
    (parsed : Store.parse bytes nesting = .ok v) : v.IsShort := by
  rw [Store.parse] at parsed
  split at parsed
  · cases parsed
  · split at parsed
    · rename_i found
      cases parsed
      exact Json.isShort_of_read found
    · cases parsed
    · cases parsed
    · cases parsed

theorem isShort_of_knownFields? {v : Value} {fields : List (Text × Value)} (short : v.IsShort)
    (known : Store.knownFields? v = some fields) : ∀ kv ∈ fields, kv.2.IsShort := by
  rw [Store.knownFields?.eq_def] at known
  split at known
  · split at known
    · cases known
      cases short with
      | table values => exact values
    · cases known
  · cases known

/-- The configuration that the bytes of a preset file hold, if they hold one. -/
def configIn? (nesting : Nesting) (bytes : List UInt8) : Option Hpl.Config :=
  match Store.parse bytes nesting with
  | .ok v => (Store.knownFields? v).map Hpl.Config.ofTable
  | .error _ => none

theorem isShort_of_configIn? {bytes : List UInt8} {c : Hpl.Config}
    (found : configIn? nesting bytes = some c) : ∀ f, (c.get f).IsShort := by
  rw [configIn?] at found
  split at found
  · rename_i parsed
    obtain ⟨fields, known, rfl⟩ := Option.map_eq_some_iff.mp found
    exact Hpl.Config.isShort_ofTable (isShort_of_knownFields? (isShort_of_parse parsed) known)
  · cases found

/-- What loading makes of the bytes of a preset file. -/
structure Loads (nesting : Nesting) (bytes : List UInt8)
    (loaded : Attempt (Option Hpl.Config × List Notice)) : Prop where
  refused : configIn? nesting bytes = none → ∃ notice, loaded = .ok (none, [notice])
  within : ∀ c, configIn? nesting bytes = some c → c.Within →
    ∃ notices, loaded = .ok (some c, notices)
  beyond : ∀ c, configIn? nesting bytes = some c → ¬ c.Within →
    loaded = .error .realOfLargeInteger

theorem Loads.exists_iff {bytes : List UInt8} {loaded : Attempt (Option Hpl.Config × List Notice)}
    (loads : Loads nesting bytes loaded) :
    (∃ result, loaded = .ok result) ↔ ∀ c, configIn? nesting bytes = some c → c.Within := by
  constructor
  · rintro ⟨result, done⟩ c found
    by_contra large
    rw [loads.beyond c found large] at done
    cases done
  · intro within
    cases found : configIn? nesting bytes with
    | none =>
        obtain ⟨notice, done⟩ := loads.refused found
        exact ⟨_, done⟩
    | some c =>
        obtain ⟨notices, done⟩ := loads.within c found (within c found)
        exact ⟨_, done⟩

theorem loads_refused {bytes : List UInt8} (none : configIn? nesting bytes = none)
    (notice : Notice) : Loads nesting bytes (.ok (.none, [notice])) where
  refused _ := ⟨notice, rfl⟩
  within c found := by rw [none] at found; cases found
  beyond c found := by rw [none] at found; cases found

/-- A configuration is loaded if it can be checked, with the problems as notices. -/
theorem loads_checked {bytes : List UInt8} {c : Hpl.Config}
    (found : configIn? nesting bytes = some c) (noted : List Text → List Notice) :
    Loads nesting bytes (do return (some c, noted (← Hpl.problems c .null))) := by
  have short := isShort_of_configIn? found
  refine ⟨fun none => ?_, fun c' same within => ?_, fun c' same large => ?_⟩
  · rw [found] at none
    cases none
  · obtain rfl : c = c' := Option.some.inj (found.symm.trans same)
    obtain ⟨problems, checked⟩ := (Hpl.exists_problems_iff short).mpr within
    rw [checked]
    exact ⟨_, rfl⟩
  · obtain rfl : c = c' := Option.some.inj (found.symm.trans same)
    cases checked : Hpl.problems c .null with
    | ok problems => exact absurd ((Hpl.exists_problems_iff short).mp ⟨problems, checked⟩) large
    | error e => rw [Hpl.error_of_problems short checked]; rfl

section

variable {store : Store} {s n : Text} {bytes : List UInt8}

/-- Loading goes by the bytes of the file alone, unless they are nested too deeply. -/
theorem loads_of_file (named : checkName s = .ok n) (held : store.file? (fileOf n) = some bytes)
    (shallow : ∀ kind, Store.parse bytes nesting ≠ .error (.tooDeep kind)) :
    Loads nesting bytes (store.load s nesting) := by
  rw [Store.load, pathOf, named]
  simp only [bind, Except.bind, pure, Except.pure, held]
  cases parsed : Store.parse bytes nesting with
  | error reason =>
      have none : configIn? nesting bytes = none := by rw [configIn?, parsed]
      cases reason with
      | tooDeep kind => exact absurd parsed (shallow kind)
      | _ => exact loads_refused none _
  | ok v =>
      dsimp only
      cases known : Store.knownFields? v with
      | none =>
          exact loads_refused (by rw [configIn?, parsed]; simp only [known, Option.map_none]) _
      | some fields =>
          have found : configIn? nesting bytes = some (Hpl.Config.ofTable fields) := by
            rw [configIn?, parsed]
            simp only [known, Option.map_some]
          exact loads_checked found _

theorem showable_iff : Showable nesting bytes ↔
    (∀ kind, Store.parse bytes nesting ≠ .error (.tooDeep kind)) ∧
      ∀ c, configIn? nesting bytes = some c → c.Within := by
  rw [Showable, configIn?]
  cases Store.parse bytes nesting with
  | error reason => simp
  | ok v => simp

/-- A preset is loaded, or found not to be one, if its name is a proper one and its file can be
    listed. -/
theorem exists_load_iff :
    (∃ loaded, store.load s nesting = .ok loaded) ↔
      ∃ n, checkName s = .ok n ∧
        ∀ bytes, store.file? (fileOf n) = some bytes → Showable nesting bytes := by
  cases named : checkName s with
  | error e => simp [Store.load, pathOf, named, bind, Except.bind]
  | ok n =>
      simp only [Except.ok.injEq, exists_eq_left']
      cases held : store.file? (fileOf n) with
      | none =>
          have missing : store.load s nesting = .ok (none, []) := by
            rw [Store.load, pathOf, named]
            simp only [bind, Except.bind, pure, Except.pure, held]
          exact iff_of_true ⟨_, missing⟩ (by simp)
      | some bytes =>
          simp only [Option.some.injEq, forall_eq', showable_iff]
          by_cases shallow : ∀ kind, Store.parse bytes nesting ≠ .error (.tooDeep kind)
          · rw [(loads_of_file named held shallow).exists_iff]
            exact (and_iff_right shallow).symm
          · refine iff_of_false ?_ fun both => shallow both.1
            obtain ⟨kind, deep⟩ := by simpa using shallow
            rw [Store.load, pathOf, named]
            simp only [bind, Except.bind, pure, Except.pure, held, deep]
            rintro ⟨loaded, done⟩
            cases done

/-- **Every content of a preset file is loaded or refused**, but for a whole number beyond the reals
    where a number is wanted: loading that one fails. -/
theorem load_answers_iff (named : checkName s = .ok n)
    (held : store.file? (fileOf n) = some bytes)
    (shallow : ∀ kind, Store.parse bytes nesting ≠ .error (.tooDeep kind)) :
    Loads nesting bytes (store.load s nesting) ∧
      ((∃ result, store.load s nesting = .ok result) ↔
        ∀ c, configIn? nesting bytes = some c → c.Within) := by
  have loads := loads_of_file named held shallow
  exact ⟨loads, loads.exists_iff⟩

end

/-- The content of a preset file with one field. -/
def oneField (key value : Text) : List UInt8 :=
  Text.encode ("\x7b\"" ++ key ++ "\": " ++ value ++ "\x7d")

/-- A list of values that are no numbers, or infinite, in a file of a name with blanks around it. -/
theorem load_answers_iff_odd :
    let bytes := oneField "ns" "[true, \"x\", [1e999], NaN, -1e999]"
    let store : Store := [("odd.json", bytes)]
    checkName " odd\t" = .ok "odd" ∧ store.file? (fileOf "odd") = some bytes ∧
      (∀ kind, Store.parse bytes ≠ .error (.tooDeep kind)) ∧
      Loads .usual bytes (store.load " odd\t") ∧
      ((∃ result, store.load " odd\t" = .ok result) ↔
        ∀ c, configIn? .usual bytes = some c → c.Within) := by
  intro bytes store
  have named : checkName " odd\t" = .ok "odd" := by decide
  have held : store.file? (fileOf "odd") = some bytes := rfl
  have read : (Store.parse bytes).toOption.isSome = true := by decide +kernel
  have shallow : ∀ kind, Store.parse bytes ≠ .error (.tooDeep kind) := by
    intro kind deep
    rw [deep] at read
    cases read
  exact ⟨named, held, shallow, load_answers_iff named held shallow⟩

/-- A whole number of four hundred digits is read, but it cannot be checked. -/
theorem not_load_large :
    let bytes := oneField "ns" ("[1" ++ Text.copies 400 '0' ++ "]")
    let store : Store := [("large.json", bytes)]
    checkName "large" = .ok "large" ∧ store.file? (fileOf "large") = some bytes ∧
      (∀ kind, Store.parse bytes ≠ .error (.tooDeep kind)) ∧
      ¬ ∃ result, store.load "large" = .ok result := by
  intro bytes store
  have read : (Store.parse bytes).toOption.isSome = true ∧
      (store.load "large").toOption.isNone = true := by decide +kernel
  refine ⟨by decide, rfl, ?_, ?_⟩
  · intro kind deep
    rw [deep] at read
    cases read.1
  · rintro ⟨result, loaded⟩
    rw [loaded] at read
    cases read.2

/-- A configuration that was loaded can be shown and was checked to the end. -/
theorem shown_of_load {store : Store} {s : Text} {c : Hpl.Config} {notices : List Notice}
    (loaded : store.load s nesting = .ok (some c, notices)) :
    (∀ f, (c.get f).IsShort) ∧ ∃ found, Hpl.problems c .null = .ok found := by
  rw [Store.load] at loaded
  obtain ⟨file, -, loaded⟩ := Attempt.exists_of_bind loaded
  split at loaded
  · cases loaded
  · split at loaded
    · cases loaded
    · cases loaded
    · rename_i parsed
      split at loaded
      · cases loaded
      · rename_i known
        obtain ⟨found, checked, done⟩ := Attempt.exists_of_bind loaded
        cases done
        exact ⟨Hpl.Config.isShort_ofTable
          (isShort_of_knownFields? (isShort_of_parse parsed) known), found, checked⟩

end Preset

end ClusterPrep
