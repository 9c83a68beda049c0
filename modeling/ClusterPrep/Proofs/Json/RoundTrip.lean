import ClusterPrep.Proofs.Attempt
import ClusterPrep.Proofs.Json.Numbers
import ClusterPrep.Proofs.Json.Strings
import Mathlib.Data.List.Forall2

set_option autoImplicit false

/-
  Values read back from their JSON. What is written for a value is read as that value wherever it
  stands, with what follows left over, so that items and fields are read back one after the other.
-/
namespace ClusterPrep.Json

open Numeral

open Text (IsAscii joinWith)

/-- Values that JSON holds, with no more than so many brackets open at once. -/
inductive HasJson : Nat → Value → Prop
  | null (d : Nat) : HasJson d .null
  | bool (d : Nat) (b : Bool) : HasJson d (.bool b)
  | int (d : Nat) {i : Int} (short : (ofNat i.natAbs).length ≤ maxDigits) : HasJson d (.int i)
  | real (d : Nat) (x : Binary64) : HasJson d (.real x)
  | text (d : Nat) {s : Text} (whole : ∀ c ∈ s, c.isHalf = false) : HasJson d (.text s)
  | list {d : Nat} {vs : List Value} (items : ∀ v ∈ vs, HasJson d v) : HasJson (d + 1) (.list vs)
  | table {d : Nat} {fs : List (Text × Value)} (distinct : (fs.map Prod.fst).Nodup)
      (keys : ∀ f ∈ fs, ∀ c ∈ f.1, c.isHalf = false) (values : ∀ f ∈ fs, HasJson d f.2) :
      HasJson (d + 1) (.table fs)

/-- A text that is a value's JSON: all of it is read, and nothing of what follows. The bounds are on
    the steps of the reader and on the brackets that can be opened. -/
structure IsJson (d : Nat) (v : Value) (s : Text) : Prop where
  ascii : IsAscii s
  starts : ∃ c t, s = c :: t ∧ c ∉ (" \t\n\r]\x7d" : Text)
  reads : ∀ {k depth : Nat} {rest : Text}, s.length ≤ k → d ≤ depth → Follows rest →
    value k depth (s ++ rest) = .ok (v, rest)

/-! ### Values without brackets -/

/-- What a number or a name begins with. -/
def IsAtomStart (c : CodePoint) : Prop := c ∉ (" \t\n\r\"[]\x7b\x7d" : Text)

instance : DecidablePred IsAtomStart := fun c =>
  inferInstanceAs (Decidable (c ∉ (" \t\n\r\"[]\x7b\x7d" : Text)))

theorem isAtomStart_of_isDigit {c : CodePoint} (digit : c.isDigit = true) : IsAtomStart c := by
  have each : ∀ c ∈ (" \t\n\r\"[]\x7b\x7d" : Text), c.isDigit = false := by decide
  intro member
  rw [each c member] at digit
  cases digit

theorem value_eq_atom {c : CodePoint} (start : IsAtomStart c) (k depth : Nat) (t : Text) :
    value (k + 1) depth (c :: t) = atom (c :: t) := by
  have other {a : CodePoint} (bracket : a ∈ (" \t\n\r\"[]\x7b\x7d" : Text)) (rest : Text) :
      c :: t ≠ a :: rest := by
    intro same
    rw [(List.cons.inj same).1] at start
    exact start bracket
  apply value.eq_7
  · exact other (by decide)
  · exact fun rest same _ => other (by decide) rest same
  · exact fun rest _ same _ => other (by decide) rest same
  · exact fun rest same _ => other (by decide) rest same
  · exact fun rest _ same _ => other (by decide) rest same

theorem IsJson.of_atom {v : Value} {s : Text} (ascii : IsAscii s)
    (starts : ∃ c t, s = c :: t ∧ IsAtomStart c)
    (reads : ∀ rest, Follows rest → atom (s ++ rest) = .ok (v, rest)) (d : Nat) :
    IsJson d v s where
  ascii := ascii
  starts := by
    obtain ⟨c, t, same, start⟩ := starts
    have fewer : ∀ c ∈ (" \t\n\r]\x7d" : Text), c ∈ (" \t\n\r\"[]\x7b\x7d" : Text) := by decide
    exact ⟨c, t, same, fun member => start (fewer c member)⟩
  reads := by
    intro k depth rest fuel _ follows
    obtain ⟨c, t, rfl, start⟩ := starts
    cases k with
    | zero => cases fuel
    | succ k =>
        rw [List.cons_append, value_eq_atom start]
        exact reads rest follows

theorem isJson_int (d : Nat) {i : Int} (short : (ofNat i.natAbs).length ≤ maxDigits) :
    IsJson d (.int i) (ofInt i) := by
  refine .of_atom (isAscii_ofInt i) ?_ (fun rest follows => atom_ofInt follows short) d
  rw [ofInt]
  split
  · exact ⟨_, _, rfl, by decide⟩
  · cases shown : ofNat i.natAbs with
    | nil => exact absurd shown (ofNat_ne_nil _)
    | cons c t =>
        have digits := IsDigits.ofNat i.natAbs
        rw [shown] at digits
        exact ⟨c, t, rfl, isAtomStart_of_isDigit (digits c (by simp))⟩

theorem isJson_real (d : Nat) (x : Binary64) : IsJson d (.real x) (realText x) := by
  refine .of_atom (isAscii_realText x) ?_ (fun rest follows => atom_realText follows x) d
  cases x with
  | nan => exact ⟨_, _, rfl, by decide⟩
  | inf neg => cases neg <;> exact ⟨_, _, rfl, by decide⟩
  | finite neg m p normal =>
      obtain ⟨d, laid, -⟩ := Binary64.text_eq_layout (x := .finite neg m p normal) rfl
      obtain ⟨c, t, front, digit⟩ := Binary64.Pieces.text_eq_cons (Binary64.isReal_piecesOf d.trim)
      rw [realText.eq_4 _ (by simp) (by simp) (by simp), laid, Binary64.text_realLayout, front]
      cases Binary64.isNegative (.finite neg m p normal) with
      | true => exact ⟨_, _, rfl, by decide⟩
      | false => exact ⟨c, t, rfl, isAtomStart_of_isDigit digit⟩

/-! ### Texts, lists and tables -/

theorem isJson_text (d : Nat) {s : Text} (whole : ∀ c ∈ s, c.isHalf = false) :
    IsJson d (.text s) (stringText s) where
  ascii := isAscii_stringText s
  starts := ⟨_, _, rfl, by decide⟩
  reads := by
    intro k depth rest fuel _ _
    cases k with
    | zero => cases fuel
    | succ k =>
        have body := stringBody_stringText whole rest
        have shown : stringText s ++ rest =
            .char '"' :: (s.flatMap escapedChar ++ .char '"' :: rest) := by
          rw [stringText, List.append_assoc, List.append_assoc]
          rfl
        rw [shown, value.eq_2, body]
        rfl

theorem isSpace_of_not_mem {c : CodePoint} {s : Text} (spaces : ∀ d ∈ (" \t\n\r" : Text), d ∈ s)
    (solid : c ∉ s) : isSpace c = false := by
  have other {d : CodePoint} (space : d ∈ (" \t\n\r" : Text)) : (c == d) = false :=
    beq_eq_false_iff_ne.mpr fun same => solid (same ▸ spaces d space)
  rw [isSpace, other (by decide), other (by decide), other (by decide), other (by decide)]
  rfl

theorem skipSpace_append {gap : Text} (blank : ∀ d ∈ gap, isSpace d = true) {c : CodePoint}
    (solid : isSpace c = false) (t : Text) : skipSpace (gap ++ c :: t) = c :: t := by
  rw [skipSpace, List.dropWhile_append_of_pos blank, List.dropWhile_cons_of_neg (by simp [solid])]

theorem isSpace_newLine (level : Nat) : ∀ d ∈ newLine level, isSpace d = true := by
  intro d member
  rcases List.mem_cons.mp member with rfl | member
  · rfl
  · rw [List.eq_of_mem_replicate member]
    rfl

theorem IsJson.skipSpace {d : Nat} {v : Value} {s : Text} (json : IsJson d v s) (gap : Text)
    (blank : ∀ d ∈ gap, isSpace d = true) (t : Text) : skipSpace (gap ++ (s ++ t)) = s ++ t := by
  obtain ⟨c, s, rfl, solid⟩ := json.starts
  exact skipSpace_append blank (isSpace_of_not_mem (by decide) solid) _

theorem joinWith_cons (sep s : Text) (ss : List Text) : ∃ t, joinWith sep (s :: ss) = s ++ t := by
  cases ss with
  | nil => exact ⟨[], (List.append_nil s).symm⟩
  | cons t ss => exact ⟨_, List.append_assoc s sep _⟩

theorem follows_newLine (level : Nat) (t : Text) : Follows (newLine level ++ t) := by
  intro c first
  exact Or.inr (Option.some.inj first).symm

theorem follows_comma (t : Text) : Follows (',' :: t) := by
  intro c first
  exact Or.inl (Option.some.inj first).symm

theorem isAscii_newLine (level : Nat) : IsAscii (newLine level) := by
  intro c member
  rcases List.mem_cons.mp member with rfl | member
  · exact Or.inl rfl
  · rw [List.eq_of_mem_replicate member]
    exact Or.inr (by decide)

/-! ### Blocks -/

theorem block_cons (opening closing : CodePoint) (level : Nat) (s : Text) (ss : List Text) :
    block opening closing level (s :: ss) =
      opening :: (newLine (level + 1) ++ (joinWith (',' :: newLine (level + 1)) (s :: ss) ++
        (newLine level ++ [closing]))) := by
  simp [block]

theorem isAscii_joinWith {sep : Text} (ascii : IsAscii sep) {ss : List Text}
    (each : ∀ s ∈ ss, IsAscii s) : IsAscii (joinWith sep ss) := by
  induction ss with
  | nil => exact IsAscii.nil
  | cons s ss ih =>
      have head := each s (by simp)
      have tail := ih fun t member => each t (List.mem_cons_of_mem s member)
      cases ss with
      | nil => exact head
      | cons t ss => exact (head.append ascii).append tail

theorem isAscii_block {opening closing : CodePoint} (visible : Text.IsVisible opening)
    (visible' : Text.IsVisible closing) (level : Nat) {ss : List Text}
    (each : ∀ s ∈ ss, IsAscii s) : IsAscii (block opening closing level ss) := by
  have last : IsAscii [closing] := IsAscii.nil.cons (Or.inr visible')
  cases ss with
  | nil => exact last.cons (Or.inr visible)
  | cons s ss =>
      have sep : IsAscii (',' :: newLine (level + 1)) :=
        (isAscii_newLine _).cons (Or.inr (by decide))
      rw [block_cons]
      exact ((isAscii_newLine _).append ((isAscii_joinWith sep each).append
        ((isAscii_newLine _).append last))).cons (Or.inr visible)

theorem starts_block (opening closing : CodePoint) (level : Nat) (ss : List Text) :
    ∃ t, block opening closing level ss = opening :: t := by
  cases ss with
  | nil => exact ⟨_, rfl⟩
  | cons s ss => exact ⟨_, block_cons _ _ _ _ _⟩

/-- A block is a value's JSON if what stands between its brackets is read for that value. -/
theorem IsJson.of_block {d level : Nat} {v : Value} {opening closing : CodePoint} {ss : List Text}
    (visible : Text.IsVisible opening ∧ opening ∉ (" \t\n\r]\x7d" : Text))
    (visible' : Text.IsVisible closing) (each : ∀ s ∈ ss, IsAscii s)
    (empty : ss = [] → ∀ k depth rest,
      value (k + 1) (depth + 1) (opening :: closing :: rest) = .ok (v, rest))
    (full : ss ≠ [] → ∀ k depth rest, (joinWith (',' :: newLine (level + 1)) ss).length < k →
      d ≤ depth → value (k + 1) (depth + 1) (opening :: (newLine (level + 1) ++
        (joinWith (',' :: newLine (level + 1)) ss ++ (newLine level ++ closing :: rest)))) =
          .ok (v, rest)) :
    IsJson (d + 1) v (block opening closing level ss) where
  ascii := isAscii_block visible.1 visible' level each
  starts := by
    obtain ⟨t, same⟩ := starts_block opening closing level ss
    exact ⟨_, t, same, visible.2⟩
  reads := by
    intro k depth rest fuel enough _
    obtain ⟨depth, rfl⟩ : ∃ e, depth = e + 1 := ⟨depth - 1, by omega⟩
    cases k with
    | zero =>
        obtain ⟨t, same⟩ := starts_block opening closing level ss
        rw [same] at fuel
        cases fuel
    | succ k =>
        cases ss with
        | nil => exact empty rfl k depth rest
        | cons s ss =>
            have inside := full (by simp) k depth rest
            rw [block_cons] at fuel ⊢
            simp only [List.length_cons, List.length_append] at fuel
            simp only [List.cons_append, List.append_assoc, List.nil_append]
            exact inside (by omega) (Nat.le_of_succ_le_succ enough)

/-! ### Lists -/

section

variable {d k depth : Nat} (enough : d ≤ depth)
include enough

section

variable {v : Value} {s : Text} (json : IsJson d v s) (fuel : s.length ≤ k) (t : Text)
include json fuel

theorem items_last (level : Nat) :
    items (k + 1) depth (s ++ (newLine level ++ .char ']' :: t)) = .ok ([v], t) := by
  have item := json.reads fuel enough (follows_newLine level (.char ']' :: t))
  have close := skipSpace_append (isSpace_newLine level) (c := ']') rfl t
  rw [items.eq_2, item]
  simp only [bind, Except.bind, close]
  rfl

theorem items_comma :
    items (k + 1) depth (s ++ .char ',' :: t) =
      (items k depth (skipSpace t)).map fun r => (v :: r.1, r.2) := by
  have item := json.reads fuel enough (follows_comma t)
  have comma : skipSpace (.char ',' :: t) = .char ',' :: t := rfl
  rw [items.eq_2, item]
  simp only [bind, Except.bind, comma]
  cases items k depth (skipSpace t) <;> rfl

end

/-- The items of a list are read one after the other. -/
theorem items_joinWith {vs : List Value} {ss : List Text} (each : List.Forall₂ (IsJson d) vs ss)
    (some : ss ≠ []) {inner : Nat} (fuel : (joinWith (',' :: newLine inner) ss).length < k)
    (outer : Nat) (rest : Text) :
    items k depth (joinWith (',' :: newLine inner) ss ++ (newLine outer ++ .char ']' :: rest)) =
      .ok (vs, rest) := by
  induction each generalizing k with
  | nil => exact absurd rfl some
  | @cons v s vs ss head tail ih =>
      cases k with
      | zero => cases fuel
      | succ k =>
          cases tail with
          | nil => exact items_last enough head (Nat.lt_succ_iff.mp fuel) rest outer
          | @cons w t ws ts next more =>
              rw [joinWith, List.length_append, List.length_append, List.length_cons] at fuel
              have others := ih (k := k) (by simp) (by omega)
              obtain ⟨tail, front⟩ := joinWith_cons (',' :: newLine inner) t ts
              rw [joinWith, List.append_assoc, List.append_assoc, List.cons_append,
                items_comma enough head (by omega)]
              rw [front, List.append_assoc] at others ⊢
              rw [next.skipSpace _ (isSpace_newLine _), others]
              rfl

end

/-- **A list is read back from its items.** -/
theorem isJson_list {d : Nat} {vs : List Value} {ss : List Text}
    (each : List.Forall₂ (IsJson d) vs ss) (level : Nat) :
    IsJson (d + 1) (.list vs) (block '[' ']' level ss) := by
  refine .of_block (by decide) (by decide) (fun s member => ?_) (fun none k depth rest => ?_)
    fun some k depth rest fuel enough => ?_
  · obtain ⟨v, -, json⟩ := Attempt.exists_of_mem_right each member
    exact json.ascii
  · subst none
    cases each
    rfl
  · have items := items_joinWith enough each some fuel level rest
    cases each with
    | nil => exact absurd rfl some
    | @cons v s vs ss head tail =>
        obtain ⟨more, front⟩ := joinWith_cons (',' :: newLine (level + 1)) s ss
        rw [front, List.append_assoc] at items ⊢
        rw [value.eq_4, head.skipSpace _ (isSpace_newLine _)]
        split
        · rename_i closed
          obtain ⟨c, t, rfl, solid⟩ := head.starts
          rw [List.cons_append] at closed
          exact absurd ((List.cons.inj closed).1 ▸ by decide) solid
        · rw [items]
          rfl

/-! ### Tables -/

/-- A text that is a field's line. -/
structure IsField (d : Nat) (f : Text × Value) (s : Text) : Prop where
  key : ∀ c ∈ f.1, c.isHalf = false
  line : ∃ t, s = stringText f.1 ++ ": " ++ t ∧ IsJson d f.2 t

theorem IsField.ascii {d : Nat} {f : Text × Value} {s : Text} (field : IsField d f s) :
    IsAscii s := by
  obtain ⟨t, rfl, json⟩ := field.line
  exact ((isAscii_stringText _).append (by decide)).append json.ascii

theorem IsField.skipSpace {d : Nat} {f : Text × Value} {s : Text} (field : IsField d f s)
    (gap : Text) (blank : ∀ d ∈ gap, isSpace d = true) (t : Text) :
    skipSpace (gap ++ (s ++ t)) = s ++ t := by
  obtain ⟨t, rfl, -⟩ := field.line
  exact skipSpace_append blank (c := '"') rfl _

section

variable {d k depth : Nat} (enough : d ≤ depth)
include enough

section

variable {f : Text × Value} {s : Text} (field : IsField d f s) (fuel : s.length ≤ k)
  (before : List (Text × Value)) (t : Text)
include field fuel

theorem fields_line {rest : Text} (follows : Follows rest) :
    fields (k + 1) depth before (s ++ rest) =
      match skipSpace rest with
      | .char ',' :: rest => fields k depth (Value.set f.1 f.2 before) (skipSpace rest)
      | .char '\x7d' :: rest => .ok (Value.set f.1 f.2 before, rest)
      | _ => .error .malformed := by
  obtain ⟨t, rfl, json⟩ := field.line
  rw [List.length_append] at fuel
  have body := stringBody_stringText field.key (.char ':' :: .char ' ' :: (t ++ rest))
  have value := json.reads (Nat.le_trans (Nat.le_add_left _ _) fuel) enough follows
  have shown : stringText f.1 ++ Text.ofString ": " ++ t ++ rest =
      .char '"' :: (f.1.flatMap escapedChar ++
        .char '"' :: .char ':' :: .char ' ' :: (t ++ rest)) := by
    simp only [stringText, List.append_assoc]
    rfl
  have colon : skipSpace (.char ':' :: .char ' ' :: (t ++ rest)) =
      .char ':' :: .char ' ' :: (t ++ rest) := rfl
  have blank : skipSpace (.char ' ' :: (t ++ rest)) = t ++ rest :=
    json.skipSpace [' '] (by decide) rest
  rw [shown, fields.eq_2, body]
  simp only [bind, Except.bind, colon, blank, value]
  rfl

end

/-- The fields of a table are read one after the other. -/
theorem fields_joinWith {fs : List (Text × Value)} {ss : List Text}
    (each : List.Forall₂ (IsField d) fs ss) (some : ss ≠ []) (before : List (Text × Value))
    (distinct : ((before ++ fs).map Prod.fst).Nodup) {inner : Nat}
    (fuel : (joinWith (',' :: newLine inner) ss).length < k) (outer : Nat) (rest : Text) :
    fields k depth before
        (joinWith (',' :: newLine inner) ss ++ (newLine outer ++ .char '\x7d' :: rest)) =
      .ok (before ++ fs, rest) := by
  induction each generalizing k before with
  | nil => exact absurd rfl some
  | @cons f s fs ss head tail ih =>
      have set : Value.set f.1 f.2 before = before ++ [f] := by
        apply Value.set_of_not_mem
        rw [List.map_append, List.map_cons] at distinct
        exact fun member => (List.nodup_append.mp distinct).2.2 _ member _ (by simp) rfl
      have grown : before ++ f :: fs = before ++ [f] ++ fs := by simp
      rw [grown] at distinct ⊢
      cases k with
      | zero => cases fuel
      | succ k =>
          cases tail with
          | nil =>
              have close := skipSpace_append (isSpace_newLine outer) (c := '\x7d') rfl rest
              rw [joinWith, fields_line enough head (Nat.lt_succ_iff.mp fuel) before
                (follows_newLine outer _), close, set, List.append_nil]
              rfl
          | @cons g t gs ts next more =>
              rw [joinWith, List.length_append, List.length_append, List.length_cons] at fuel
              have others := ih (k := k) (by simp) _ distinct (by omega)
              obtain ⟨tail, front⟩ := joinWith_cons (',' :: newLine inner) t ts
              rw [joinWith, List.append_assoc, List.append_assoc, List.cons_append,
                fields_line enough head (by omega) before (follows_comma _)]
              have comma (u : Text) : skipSpace (.char ',' :: u) = .char ',' :: u := rfl
              rw [comma, set]
              rw [front, List.append_assoc] at others ⊢
              change fields k depth (before ++ [f]) (skipSpace _) = _
              rw [next.skipSpace _ (isSpace_newLine _), others]

end

/-- **A table with distinct keys is read back from its fields.** -/
theorem isJson_table {d : Nat} {fs : List (Text × Value)} {ss : List Text}
    (each : List.Forall₂ (IsField d) fs ss) (distinct : (fs.map Prod.fst).Nodup) (level : Nat) :
    IsJson (d + 1) (.table fs) (block '\x7b' '\x7d' level ss) := by
  refine .of_block (by decide) (by decide) (fun s member => ?_) (fun none k depth rest => ?_)
    fun some k depth rest fuel enough => ?_
  · obtain ⟨f, -, field⟩ := Attempt.exists_of_mem_right each member
    exact field.ascii
  · subst none
    cases each
    rfl
  · have fields := fields_joinWith enough each some [] distinct fuel level rest
    cases each with
    | nil => exact absurd rfl some
    | @cons f s fs ss head tail =>
        obtain ⟨more, front⟩ := joinWith_cons (',' :: newLine (level + 1)) s ss
        rw [front, List.append_assoc] at fields ⊢
        rw [value.eq_6, head.skipSpace _ (isSpace_newLine _)]
        split
        · rename_i closed
          obtain ⟨t, rfl, -⟩ := head.line
          cases (List.cons.inj closed).1
        · rw [fields]
          rfl

/-! ### Every value -/

theorem exists_writeItems {d level : Nat} {vs : List Value}
    (each : ∀ v ∈ vs, ∃ s, write level v = .ok s ∧ IsJson d v s) :
    ∃ ss, writeItems level vs = .ok ss ∧ List.Forall₂ (IsJson d) vs ss := by
  induction vs with
  | nil => exact ⟨[], rfl, .nil⟩
  | cons v vs ih =>
      obtain ⟨s, head, json⟩ := each v (by simp)
      obtain ⟨ss, tail, jsons⟩ := ih fun w member => each w (List.mem_cons_of_mem v member)
      refine ⟨s :: ss, ?_, .cons json jsons⟩
      rw [writeItems, head, tail]
      rfl

theorem exists_writeFields {d level : Nat} {fs : List (Text × Value)}
    (keys : ∀ f ∈ fs, ∀ c ∈ f.1, c.isHalf = false)
    (each : ∀ f ∈ fs, ∃ s, write level f.2 = .ok s ∧ IsJson d f.2 s) :
    ∃ ss, writeFields level fs = .ok ss ∧ List.Forall₂ (IsField d) fs ss := by
  induction fs with
  | nil => exact ⟨[], rfl, .nil⟩
  | cons f fs ih =>
      obtain ⟨s, head, json⟩ := each f (by simp)
      obtain ⟨ss, tail, lines⟩ := ih (fun g member => keys g (List.mem_cons_of_mem f member))
        fun g member => each g (List.mem_cons_of_mem f member)
      refine ⟨_ :: ss, ?_, .cons ⟨keys f (by simp), s, rfl, json⟩ lines⟩
      obtain ⟨key, v⟩ := f
      rw [writeFields, head, tail]
      rfl

/-- Every value that JSON holds is written, and what is written is its JSON. -/
theorem exists_write {d : Nat} {v : Value} (holds : HasJson d v) (level : Nat) :
    ∃ s, write level v = .ok s ∧ IsJson d v s := by
  induction holds generalizing level with
  | null d => exact ⟨_, rfl, .of_atom (by decide) ⟨_, _, rfl, by decide⟩ (fun _ _ => rfl) d⟩
  | bool d b =>
      cases b
      · exact ⟨_, rfl, .of_atom (by decide) ⟨_, _, rfl, by decide⟩ (fun _ _ => rfl) d⟩
      · exact ⟨_, rfl, .of_atom (by decide) ⟨_, _, rfl, by decide⟩ (fun _ _ => rfl) d⟩
  | int d short => exact ⟨_, writeInt_eq_ok _ short, isJson_int d short⟩
  | real d x => exact ⟨_, rfl, isJson_real d x⟩
  | text d whole => exact ⟨_, rfl, isJson_text d whole⟩
  | list items ih =>
      obtain ⟨ss, written, jsons⟩ := exists_writeItems fun v member => ih v member (level + 1)
      refine ⟨_, ?_, isJson_list jsons level⟩
      rw [write, written]
      rfl
  | table distinct keys values ih =>
      obtain ⟨ss, written, lines⟩ :=
        exists_writeFields keys fun f member => ih f member (level + 1)
      refine ⟨_, ?_, isJson_table lines distinct level⟩
      rw [write, written]
      rfl

/-- **A value is read back from its JSON**, which is all ASCII and may end in a line feed. -/
theorem read_write {nesting : Nesting} {v : Value} (holds : HasJson nesting.json v) :
    ∃ s, write 0 v = .ok s ∧ IsAscii s ∧ read (s ++ "\n") nesting = .ok v := by
  obtain ⟨s, written, json⟩ := exists_write holds 0
  refine ⟨s, written, json.ascii, ?_⟩
  have front : skipSpace (s ++ "\n") = s ++ "\n" := json.skipSpace [] (by simp) "\n"
  have follows : Follows ("\n" : Text) := follows_newLine 0 []
  have value := json.reads (k := 2 * (s ++ "\n" : Text).length + 1)
    (by rw [List.length_append]; omega) (Nat.le_refl nesting.json) follows
  rw [read, front, value]
  rfl

end ClusterPrep.Json
