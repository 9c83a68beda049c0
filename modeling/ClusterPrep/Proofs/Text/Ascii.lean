import ClusterPrep.Text.Blank
import ClusterPrep.Text.Utf8

set_option autoImplicit false

/-
  Texts of visible ASCII on lines that end in line feeds. Each of their characters is one byte, and
  they come back from their bytes as they were.
-/
namespace ClusterPrep.Text

/-- A character that has a visible form in ASCII, or the blank. -/
def IsVisible (c : CodePoint) : Prop := 32 ≤ c.toNat ∧ c.toNat ≤ 126

instance : DecidablePred IsVisible := fun c =>
  inferInstanceAs (Decidable (32 ≤ c.toNat ∧ c.toNat ≤ 126))

/-- A text of lines of visible ASCII. -/
def IsAscii (s : Text) : Prop := ∀ c ∈ s, c = '\n' ∨ IsVisible c

instance : DecidablePred IsAscii := fun s =>
  inferInstanceAs (Decidable (∀ c ∈ s, c = '\n' ∨ IsVisible c))

namespace IsAscii

variable {s t : Text}

theorem nil : IsAscii [] := by decide

theorem append (first : IsAscii s) (second : IsAscii t) : IsAscii (s ++ t) := by
  intro c member
  rcases List.mem_append.mp member with member | member
  · exact first c member
  · exact second c member

theorem cons {c : CodePoint} (head : c = '\n' ∨ IsVisible c) (tail : IsAscii s) :
    IsAscii (c :: s) := by
  intro d member
  rcases List.mem_cons.mp member with rfl | member
  · exact head
  · exact tail d member

theorem toNat_lt (ascii : IsAscii s) {c : CodePoint} (member : c ∈ s) : c.toNat < 128 := by
  rcases ascii c member with rfl | visible
  · decide
  · exact Nat.lt_of_le_of_lt visible.2 (by decide)

/-- Each character is a byte. -/
theorem length_encode (ascii : IsAscii s) : (encode s).length = s.length := by
  induction s with
  | nil => rfl
  | cons c s ih =>
      have tail := ih fun d member => ascii d (List.mem_cons_of_mem c member)
      have small := ascii.toNat_lt List.mem_cons_self
      cases c with
      | half n =>
          change 0xD800 + n.val < 128 at small
          omega
      | char c =>
          have small : c.toNat < 128 := small
          have one : encode (.char c :: s) = c.toNat.toUInt8 :: encode s := by
            rw [encode, List.flatMap_cons, encodePoint, encodeChar, if_pos small]
            rfl
          rw [one, List.length_cons, List.length_cons, tail]

/-- Text that is all ASCII is decoded from its bytes. -/
theorem decoded_encode (ascii : IsAscii s) :
    ∃ cs, s = ofChars cs ∧ decoded none (encode s) = cs.map some := by
  induction s with
  | nil => exact ⟨[], rfl, rfl⟩
  | cons c s ih =>
      obtain ⟨cs, same, tail⟩ := ih fun d member => ascii d (List.mem_cons_of_mem c member)
      have small := ascii.toNat_lt (List.mem_cons_self)
      cases c with
      | half n =>
          change 0xD800 + n.val < 128 at small
          omega
      | char c =>
          have small : c.toNat < 128 := small
          have byte : c.toNat.toUInt8.toNat = c.toNat := by
            simp only [Nat.toUInt8, UInt8.toNat_ofNat']
            omega
          have one : encode (.char c :: s) = c.toNat.toUInt8 :: encode s := by
            rw [encode, List.flatMap_cons, encodePoint, encodeChar, if_pos small]
            rfl
          refine ⟨c :: cs, by rw [same]; rfl, ?_⟩
          rw [one, decoded, byte, advance]
          simp only [small, ↓reduceIte, tail, Char.ofNat_toNat]
          rfl

theorem decode?_encode (ascii : IsAscii s) : decode? (encode s) = some s := by
  obtain ⟨cs, same, bytes⟩ := ascii.decoded_encode
  have all (cs : List Char) : (cs.map some).mapM id = some cs := by
    induction cs with
    | nil => rfl
    | cons c cs ih =>
        rw [List.map_cons, List.mapM_cons, ih]
        rfl
  rw [decode?, bytes, all cs, same]
  rfl

theorem unifyNewlines_eq (ascii : IsAscii s) : unifyNewlines s = s := by
  induction s with
  | nil => rfl
  | cons c s ih =>
      have tail := ih fun d member => ascii d (List.mem_cons_of_mem c member)
      have other : c ≠ '\r' := by
        rintro rfl
        rcases ascii _ List.mem_cons_self with feed | visible
        · cases feed
        · exact absurd visible.1 (by decide)
      rw [unifyNewlines.eq_3 c s fun _ feed _ => other feed, if_neg other, tail]

end IsAscii

end ClusterPrep.Text
