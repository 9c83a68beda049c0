import ClusterPrep.Proofs.Attempt
import ClusterPrep.Proofs.Number.Digits
import ClusterPrep.Proofs.Number.Order
import ClusterPrep.Proofs.Number.Range
import ClusterPrep.Settings.Basic

set_option autoImplicit false

/-
  The values of one setting: what a value of any kind becomes, which of them are in range, and which
  are too large to become one.
-/
namespace ClusterPrep

namespace Numeral

theorem kind_of_readReal {text : Text} {e : Failure} (failed : Numeral.readReal text = .error e) :
    e.kind = .badValue := by
  rw [Numeral.readReal] at failed
  generalize Numeral.sign (Text.trimWhile Numeral.isMargin text) = parts at failed
  dsimp only at failed
  split_ifs at failed
  split at failed
  · cases failed
  · cases failed
    rfl

end Numeral

namespace Value

/-- A value is no real because it is no number or because it is too large a whole number. -/
theorem kind_of_castReal {v : Value} {e : Failure} (failed : v.castReal = .error e) :
    e.kind = .badValue ∨ e.kind = .badType ∨ ∃ i, v = .int i ∧ 2 ^ 1024 - 2 ^ 970 ≤ i.natAbs := by
  cases v with
  | text text => exact .inl (Numeral.kind_of_readReal failed)
  | real x => cases failed
  | int i =>
      refine .inr (.inr ⟨i, rfl, ?_⟩)
      by_contra within
      have made : (Value.int i).castReal = .ok (Binary64.ofInt i) :=
        Binary64.ofInt?_of_within (Nat.lt_of_not_le within)
      rw [made] at failed
      cases failed
  | bool b =>
      have made : ((Value.bool b).castReal).isOk = true := by cases b <;> decide +kernel
      rw [failed] at made
      cases made
  | null | moment _ | list _ | table _ =>
      cases failed
      exact .inr (.inl rfl)

/-- A value is no whole number because it is no number or because it is infinite. -/
theorem kind_of_castInt {v : Value} {e : Failure} (failed : v.castInt = .error e) :
    e.kind = .badValue ∨ e.kind = .badType ∨ ∃ neg, v = .real (.inf neg) := by
  cases v with
  | text text => exact .inl (Numeral.kind_of_readInt failed)
  | real x =>
      cases x with
      | nan =>
          cases failed
          exact .inl rfl
      | inf neg => exact .inr (.inr ⟨neg, rfl⟩)
      | finite neg m p normal => cases failed
  | int i => cases failed
  | bool b => cases failed
  | null | moment _ | list _ | table _ =>
      cases failed
      exact .inr (.inl rfl)

end Value

namespace Setting

/-- Whether a setting is a whole number. -/
def isWhole : Setting → Bool
  | .blockMultiple | .processCount => true
  | .previewDelay | .memoryRatio | .memory => false

/-- What a value becomes when a setting is set from it. -/
def cast (st : Setting) (v : Value) : Attempt Value :=
  if st.isWhole then do return .int (← v.castInt)
  else do return .real (← v.castReal)

/-- The values in the range of a setting. The memory may be endless, and nothing else may. -/
inductive Allows : Setting → Value → Prop
  | previewDelay {x : Binary64} (finite : x.isFinite = true) (least : 0 ≤ x.units)
      (most : x.units ≤ 10 * Binary64.one) : Allows .previewDelay (.real x)
  | memoryRatio {x : Binary64} (finite : x.isFinite = true) (positive : 0 < x.units)
      (most : x.units ≤ Binary64.one) : Allows .memoryRatio (.real x)
  | blockMultiple {i : Int} (least : 1 ≤ i) : Allows .blockMultiple (.int i)
  | processCount {i : Int} (least : 1 ≤ i) : Allows .processCount (.int i)
  | memory {x : Binary64} (finite : x.isFinite = true) (least : 0 ≤ x.units) :
      Allows .memory (.real x)
  | endless : Allows .memory (.real (.inf false))

/-- The numbers that are too large to become a setting: an infinite one is no whole number, and a
    whole number that rounds beyond the greatest real is no real. -/
inductive TooLarge : Setting → Value → Prop
  | infinite {st : Setting} (whole : st.isWhole = true) (neg : Bool) :
      TooLarge st (.real (.inf neg))
  | long {st : Setting} (real : st.isWhole = false) {i : Int}
      (beyond : 2 ^ 1024 - 2 ^ 970 ≤ i.natAbs) : TooLarge st (.int i)

/-! ### Ranges -/

theorem all_nodup : all.Nodup := by decide

theorem mem_all (st : Setting) : st ∈ all := by
  cases st <;> decide

/-- A setting is in range if its value is one of those. -/
theorem inRange_iff_allows (s : Settings) (st : Setting) :
    s.inRange st = true ↔ st.Allows (s.get st) := by
  cases st with
  | previewDelay =>
      change (Binary64.le .zero s.previewDelay && s.previewDelay.le (.ofInt 10)) = true ↔
        Allows .previewDelay (.real s.previewDelay)
      obtain ⟨-, limited, ten⟩ := Binary64.ofInt_one_ten
      rw [Binary64.zero_le_and_le_iff limited, ten]
      exact ⟨fun ⟨finite, least, most⟩ => .previewDelay finite least most,
        fun | .previewDelay finite least most => ⟨finite, least, most⟩⟩
  | memoryRatio =>
      change (Binary64.lt .zero s.memoryRatio && s.memoryRatio.le (.ofInt 1)) = true ↔
        Allows .memoryRatio (.real s.memoryRatio)
      obtain ⟨⟨limited, one⟩, -⟩ := Binary64.ofInt_one_ten
      rw [Binary64.zero_lt_and_le_iff limited, one]
      exact ⟨fun ⟨finite, positive, most⟩ => .memoryRatio finite positive most,
        fun | .memoryRatio finite positive most => ⟨finite, positive, most⟩⟩
  | blockMultiple =>
      change decide (1 ≤ s.blockMultiple) = true ↔ Allows .blockMultiple (.int s.blockMultiple)
      rw [decide_eq_true_iff]
      exact ⟨.blockMultiple, fun | .blockMultiple least => least⟩
  | processCount =>
      change decide (1 ≤ s.processCount) = true ↔ Allows .processCount (.int s.processCount)
      rw [decide_eq_true_iff]
      exact ⟨.processCount, fun | .processCount least => least⟩
  | memory =>
      change Binary64.le .zero s.memory = true ↔ Allows .memory (.real s.memory)
      rw [Binary64.zero_le_iff]
      generalize s.memory = x
      constructor
      · rintro (⟨finite, least⟩ | rfl)
        · exact .memory finite least
        · exact .endless
      · rintro (_ | _ | _ | _ | ⟨finite, least⟩ | _)
        · exact .inl ⟨finite, least⟩
        · exact .inr rfl

/-- The defaults are in range. -/
theorem allows_default (st : Setting) : st.Allows (({} : Settings).get st) := by
  rw [← inRange_iff_allows]
  cases st <;> decide +kernel

/-! ### Setting one of the settings -/

variable {s t : Settings} {st : Setting} {v : Value}

theorem cast_of_isWhole (whole : st.isWhole = true) {i : Int} (found : v.castInt = .ok i) :
    st.cast v = .ok (.int i) := by
  rw [cast, if_pos whole, found]
  rfl

theorem cast_of_not_isWhole (real : st.isWhole = false) {x : Binary64}
    (found : v.castReal = .ok x) : st.cast v = .ok (.real x) := by
  rw [cast, if_neg (by rw [real]; decide), found]
  rfl

/-- A setting that was set has the value that was made for it, and the others are as before. -/
theorem cast_of_assign (made : s.assign v st = .ok t) :
    st.cast v = .ok (t.get st) ∧ ∀ other, other ≠ st → t.get other = s.get other := by
  cases st
  case previewDelay | memoryRatio | memory =>
    obtain ⟨x, found, rest⟩ := Attempt.exists_of_bind made
    cases rest
    exact ⟨cast_of_not_isWhole rfl found, fun other distinct => by cases other <;> trivial⟩
  case blockMultiple | processCount =>
    obtain ⟨i, found, rest⟩ := Attempt.exists_of_bind made
    cases rest
    exact ⟨cast_of_isWhole rfl found, fun other distinct => by cases other <;> trivial⟩

theorem get_reset (s : Settings) (st : Setting) :
    (s.reset st).get st = ({} : Settings).get st ∧
      ∀ other, other ≠ st → (s.reset st).get other = s.get other := by
  cases st
  all_goals
    refine ⟨by simp only [Settings.reset, Settings.get], fun other distinct => ?_⟩
    cases other <;> first | contradiction | simp only [Settings.reset, Settings.get]

theorem cast_of_assign_eq_error {e : Failure} (failed : s.assign v st = .error e) :
    st.cast v = .error e := by
  cases st
  case previewDelay | memoryRatio | memory =>
    obtain unmade | ⟨x, -, rest⟩ := Attempt.error_of_bind failed
    · exact congrArg (· >>= fun x => Except.ok (Value.real x)) unmade
    · cases rest
  case blockMultiple | processCount =>
    obtain unmade | ⟨i, -, rest⟩ := Attempt.error_of_bind failed
    · exact congrArg (· >>= fun i => Except.ok (Value.int i)) unmade
    · cases rest

/-! ### Values that become no setting -/

theorem kind_of_cast {e : Failure} (failed : st.cast v = .error e) :
    e.kind = .badValue ∨ e.kind = .badType ∨ st.TooLarge v := by
  cases whole : st.isWhole with
  | true =>
      rw [cast, if_pos whole] at failed
      obtain unmade | ⟨i, -, rest⟩ := Attempt.error_of_bind failed
      · rcases Value.kind_of_castInt unmade with value | type | ⟨neg, rfl⟩
        · exact .inl value
        · exact .inr (.inl type)
        · exact .inr (.inr (.infinite whole neg))
      · cases rest
  | false =>
      rw [cast, if_neg (by rw [whole]; decide)] at failed
      obtain unmade | ⟨i, -, rest⟩ := Attempt.error_of_bind failed
      · rcases Value.kind_of_castReal unmade with value | type | ⟨i, rfl, beyond⟩
        · exact .inl value
        · exact .inr (.inl type)
        · exact .inr (.inr (.long whole beyond))
      · cases rest

/-- A number that is too large for a setting becomes none. -/
theorem TooLarge.cast (large : st.TooLarge v) : ∃ e, st.cast v = .error e ∧ e.kind = .tooLarge := by
  cases large with
  | infinite whole neg =>
      refine ⟨.integerOfInfinity, ?_, rfl⟩
      rw [Setting.cast, if_pos whole]
      rfl
  | @long real i beyond =>
      refine ⟨.realOfLargeInteger, ?_, rfl⟩
      have unmade : (Value.int i).castReal = .error .realOfLargeInteger :=
        Binary64.ofInt?_of_beyond beyond
      rw [Setting.cast, if_neg (by rw [real]; decide), unmade]
      rfl

end Setting

end ClusterPrep
