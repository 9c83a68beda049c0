import ClusterPrep.Proofs.Settings.Values
import ClusterPrep.Settings.Loader

set_option autoImplicit false

/-
  Loading settings. Every setting depends on its own entry in the file and on nothing else: it is
  what the entry becomes if that is in range, and the default otherwise. Only a number that is too
  large to become its setting stops the loading.
-/
namespace ClusterPrep.Settings

/-- The value of a setting whose entry in a file is this: what the entry becomes, if it becomes
    something in range, and the default otherwise. -/
inductive Chosen (entry : Option Value) (st : Setting) : Value → Prop
  | made {v w : Value} (given : entry = some v) (cast : st.cast v = .ok w)
      (allowed : st.Allows w) : Chosen entry st w
  | default (unfit : ∀ v w, entry = some v → st.cast v = .ok w → ¬ st.Allows w) :
      Chosen entry st (({} : Settings).get st)

theorem Chosen.unique {entry : Option Value} {st : Setting} {v w : Value}
    (first : Chosen entry st v) (second : Chosen entry st w) : v = w := by
  cases first with
  | made given cast allowed =>
      cases second with
      | made given' cast' allowed' =>
          rw [given] at given'
          cases given'
          rw [cast] at cast'
          exact Except.ok.inj cast'
      | default unfit => exact absurd allowed (unfit _ _ given cast)
  | default unfit =>
      cases second with
      | made given cast allowed => exact absurd allowed (unfit _ _ given cast)
      | default unfit' => rfl

theorem Chosen.allows {entry : Option Value} {st : Setting} {v : Value}
    (chosen : Chosen entry st v) : st.Allows v := by
  cases chosen with
  | made given cast allowed => exact allowed
  | default unfit => exact st.allows_default

/-! ### One setting -/

variable {root : Toml.Fields} {sn sn' : Noted} {st : Setting}

/-- What one step does to the settings: it changes its own one as `R` says, and no other. -/
structure Changes (R : Value → Value → Prop) (sn sn' : Noted) (st : Setting) : Prop where
  own : R (sn.1.get st) (sn'.1.get st)
  others : ∀ other, other ≠ st → sn'.1.get other = sn.1.get other

/-- What an entry makes of the value that a setting has before. -/
def Taken (entry : Option Value) (st : Setting) (old new : Value) : Prop :=
  (∃ v, entry = some v ∧ st.cast v = .ok new) ∨
    ((∀ v w, entry = some v → st.cast v ≠ .ok w) ∧ new = old)

/-- What is left of a value that may be out of range. -/
def Restricted (st : Setting) (old new : Value) : Prop :=
  (st.Allows old ∧ new = old) ∨ (¬ st.Allows old ∧ new = ({} : Settings).get st)

/-- All that taking over a setting can do: nothing without an entry; set it to what the entry
    becomes; pass an entry over that becomes nothing; or stop at a number that is too large. -/
theorem take_cases (root : Toml.Fields) (sn : Noted) (st : Setting) :
    (given? root st = none ∧ take root sn st = .ok sn) ∨
      ∃ v, given? root st = some v ∧
        ((∃ s, st.cast v = .ok (s.get st) ∧ (∀ other, other ≠ st → s.get other = sn.1.get other) ∧
            take root sn st = .ok (s, sn.2)) ∨
          (∃ e notices, st.cast v = .error e ∧ ¬ st.TooLarge v ∧
            take root sn st = .ok (sn.1, notices)) ∨
          ∃ e, st.TooLarge v ∧ take root sn st = .error e) := by
  cases given : given? root st with
  | none =>
      refine .inl ⟨rfl, ?_⟩
      rw [take, given]
      rfl
  | some v =>
      refine .inr ⟨v, rfl, ?_⟩
      rw [take, given]
      dsimp only
      cases made : sn.1.assign v st with
      | ok s =>
          obtain ⟨cast, others⟩ := Setting.cast_of_assign made
          exact .inl ⟨s, cast, others, rfl⟩
      | error e =>
          have uncast := Setting.cast_of_assign_eq_error made
          dsimp only
          split
          · rename_i passed
            refine .inr (.inl ⟨e, _, uncast, fun large => ?_, rfl⟩)
            obtain ⟨e', failed, kind⟩ := large.cast
            rw [uncast] at failed
            cases failed
            rw [kind] at passed
            rcases passed with value | type
            · cases value
            · cases type
          · rename_i stops
            refine .inr (.inr ⟨e, ?_, rfl⟩)
            rcases Setting.kind_of_cast uncast with value | type | large
            · exact absurd (.inl value) stops
            · exact absurd (.inr type) stops
            · exact large

theorem changes_of_take (taken : take root sn st = .ok sn') :
    Changes (Taken (given? root st) st) sn sn' st := by
  rcases take_cases root sn st with
    ⟨missing, ran⟩ | ⟨v, given, ⟨s, cast, others, ran⟩ | ⟨e, notices, uncast, -, ran⟩ | ⟨e, -, ran⟩⟩
  all_goals
    rw [ran] at taken
    cases taken
  · rw [missing]
    exact ⟨.inr ⟨fun v w given => (nomatch given), rfl⟩, fun _ _ => rfl⟩
  · exact ⟨.inl ⟨v, given, cast⟩, others⟩
  · rw [given]
    refine ⟨.inr ⟨?_, rfl⟩, fun _ _ => rfl⟩
    rintro _ w ⟨⟩ cast
    rw [uncast] at cast
    cases cast

theorem changes_of_restrict (sn : Noted) (st : Setting) :
    Changes (Restricted st) sn (restrict sn st) st := by
  rw [restrict]
  split
  · rename_i inside
    exact ⟨.inl ⟨(st.inRange_iff_allows sn.1).mp inside, rfl⟩, fun _ _ => rfl⟩
  · rename_i outside
    rw [Setting.inRange_iff_allows] at outside
    obtain ⟨own, others⟩ := Setting.get_reset sn.1 st
    exact ⟨.inr ⟨outside, own⟩, others⟩

/-- Only a number that is too large for a setting cannot be passed over. -/
theorem exists_take_iff :
    (∃ sn', take root sn st = .ok sn') ↔ ∀ v, given? root st = some v → ¬ st.TooLarge v := by
  rcases take_cases root sn st with
    ⟨missing, ran⟩ | ⟨v, given, ⟨s, cast, -, ran⟩ | ⟨e, notices, -, fits, ran⟩ | ⟨e, large, ran⟩⟩
  · rw [missing]
    exact iff_of_true ⟨sn, ran⟩ fun v given => nomatch given
  · rw [given]
    refine iff_of_true ⟨_, ran⟩ ?_
    rintro _ ⟨⟩ large
    obtain ⟨e, failed, -⟩ := large.cast
    rw [cast] at failed
    cases failed
  · rw [given]
    refine iff_of_true ⟨_, ran⟩ ?_
    rintro _ ⟨⟩
    exact fits
  · refine iff_of_false ?_ fun all => all v given large
    rintro ⟨sn', done⟩
    rw [ran] at done
    cases done

/-! ### All settings -/

/-- Steps over different settings change each setting as its own step does. -/
theorem changes_of_run {R : Setting → Value → Value → Prop}
    {step : Noted → Setting → Attempt Noted}
    (each : ∀ sn sn' st, step sn st = .ok sn' → Changes (R st) sn sn' st) {sts : List Setting}
    (distinct : sts.Nodup) (ran : sts.foldlM step sn = .ok sn') :
    (∀ st ∈ sts, R st (sn.1.get st) (sn'.1.get st)) ∧
      ∀ st, st ∉ sts → sn'.1.get st = sn.1.get st := by
  induction sts generalizing sn with
  | nil =>
      cases ran
      exact ⟨fun st member => (List.not_mem_nil member).elim, fun st outside => rfl⟩
  | cons st sts ih =>
      rw [List.foldlM_cons] at ran
      obtain ⟨next, first, rest⟩ := Attempt.exists_of_bind ran
      obtain ⟨fresh, distinct⟩ := List.nodup_cons.mp distinct
      obtain ⟨inside, outside⟩ := ih distinct rest
      obtain ⟨own, others⟩ := each sn next st first
      constructor
      · intro other member
        rcases List.mem_cons.mp member with rfl | member
        · rw [outside other fresh]
          exact own
        · have away : other ≠ st := by
            intro same
            rw [same] at member
            exact fresh member
          rw [← others other away]
          exact inside other member
      · intro other absent
        rw [List.mem_cons, not_or] at absent
        rw [outside other absent.2, others other absent.1]

theorem chosen_of_ofTable {s : Settings} {notices : List Notice}
    (loaded : ofTable root = .ok (s, notices)) (st : Setting) :
    Chosen (given? root st) st (s.get st) := by
  obtain ⟨sn, taken, rest⟩ := Attempt.exists_of_bind loaded
  have restricted : Setting.all.foldl restrict sn = (s, notices) := Except.ok.inj rest
  have ran : (Setting.all.foldlM (fun sn st => .ok (restrict sn st)) sn : Attempt Noted) =
      .ok (s, notices) := by
    rw [← restricted]
    exact Attempt.foldlM_eq_ok fun _ _ _ => rfl
  have first := (changes_of_run (fun _ _ _ => changes_of_take) Setting.all_nodup taken).1 st
    st.mem_all
  have second := (changes_of_run (R := Restricted)
    (fun sn sn' st done => by cases done; exact changes_of_restrict sn st)
    Setting.all_nodup ran).1 st st.mem_all
  dsimp only at first second
  rcases second with ⟨allowed, kept⟩ | ⟨outside, reset⟩
  · rw [kept]
    rcases first with ⟨v, given, cast⟩ | ⟨unmade, same⟩
    · exact .made given cast allowed
    · rw [same]
      exact .default fun v w given cast => absurd cast (unmade v w given)
  · rw [reset]
    refine .default fun v w given cast allowed => ?_
    rcases first with ⟨v', given', cast'⟩ | ⟨unmade, same⟩
    · rw [given] at given'
      cases given'
      rw [cast] at cast'
      cases cast'
      exact outside allowed
    · exact unmade v w given cast

theorem chosen_of_load {bytes : List UInt8} {nesting : Nesting} {s : Settings}
    {notices : List Notice} (parsed : parse bytes nesting = .ok root)
    (loaded : load (some bytes) nesting = .ok (s, notices)) (st : Setting) :
    Chosen (given? root st) st (s.get st) := by
  rw [load, parsed] at loaded
  exact chosen_of_ofTable loaded st

/-- Loaded settings are in range, whatever is in the file and also without one. -/
theorem allows_of_load {file : Option (List UInt8)} {nesting : Nesting} {s : Settings}
    {notices : List Notice} (loaded : load file nesting = .ok (s, notices)) (st : Setting) :
    st.Allows (s.get st) := by
  have settled {sn : Noted} (same : (.ok sn : Attempt Noted) = .ok (s, notices))
      (allowed : st.Allows (sn.1.get st)) : st.Allows (s.get st) := by
    cases same
    exact allowed
  cases file with
  | none => exact settled loaded st.allows_default
  | some bytes =>
      cases parsed : parse bytes nesting with
      | error reason =>
          rw [load, parsed] at loaded
          exact settled loaded st.allows_default
      | ok root => exact (chosen_of_load parsed loaded st).allows

theorem exists_ofTable_iff :
    (∃ noted, ofTable root = .ok noted) ↔
      ∀ st v, given? root st = some v → ¬ st.TooLarge v := by
  have taken : (∃ noted, ofTable root = .ok noted) ↔
      ∃ sn, Setting.all.foldlM (take root) ({}, []) = .ok sn := by
    constructor
    · rintro ⟨noted, loaded⟩
      obtain ⟨sn, ran, -⟩ := Attempt.exists_of_bind loaded
      exact ⟨sn, ran⟩
    · rintro ⟨sn, ran⟩
      refine ⟨Setting.all.foldl restrict sn, ?_⟩
      rw [ofTable, ran]
      rfl
  have each : ∀ st sn, (∃ sn', take root sn st = .ok sn') ↔
      ∀ v, given? root st = some v → ¬ st.TooLarge v := fun _ _ => exists_take_iff
  rw [taken, Attempt.exists_foldlM_iff each]
  exact ⟨fun each st => each st st.mem_all, fun each st _ => each st⟩

/-- Loading gives settings for every file whose entries are not numbers too large for their
    settings: also for a missing file, for one that cannot be read, and for entries of any kind that
    fit no setting. -/
theorem exists_loaded_iff (file : Option (List UInt8)) (nesting : Nesting) :
    (∃ noted, load file nesting = .ok noted) ↔
      ∀ bytes root, file = some bytes → parse bytes nesting = .ok root →
        ∀ st v, given? root st = some v → ¬ st.TooLarge v := by
  cases file with
  | none => exact iff_of_true ⟨_, rfl⟩ fun bytes root missing => nomatch missing
  | some bytes =>
      rw [load]
      cases parsed : parse bytes nesting with
      | error reason =>
          refine iff_of_true ⟨_, rfl⟩ fun bytes' root same parsed' => ?_
          cases same
          rw [parsed] at parsed'
          cases parsed'
      | ok root =>
          dsimp only
          rw [exists_ofTable_iff]
          constructor
          · intro fits bytes' root' same parsed'
            cases same
            rw [parsed] at parsed'
            cases parsed'
            exact fits
          · intro fits
            exact fits bytes root rfl parsed

/-- An infinite multiple stops the loading. -/
theorem not_exists_loaded_infinite :
    ¬ ∃ noted, load (some (Text.encode "[hpl]\nn_multiple = inf\n")) = .ok noted := by
  rintro ⟨noted, loaded⟩
  have stopped : (load (some (Text.encode "[hpl]\nn_multiple = inf\n"))).isOk = false := by
    decide +kernel
  rw [loaded] at stopped
  cases stopped

end ClusterPrep.Settings
