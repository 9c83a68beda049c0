import ClusterPrep.Text.Basic

set_option autoImplicit false

/-
  Texts as bytes. A half of a surrogate pair has no bytes, apart from those halves that stand for a
  byte in the name of a file. Decoding reads the longest well-formed prefix of a character; where
  there is none, it fails, or tells what is wrong, or puts the replacement character for the bytes
  that could not go on.
-/
namespace ClusterPrep.Text

/-- The bytes of a character. -/
def encodeChar (c : Char) : List UInt8 :=
  let n := c.toNat
  if n < 0x80 then [n.toUInt8]
  else if n < 0x800 then [(0xC0 + n / 64).toUInt8, (0x80 + n % 64).toUInt8]
  else if n < 0x10000 then
    [(0xE0 + n / 4096).toUInt8, (0x80 + n / 64 % 64).toUInt8, (0x80 + n % 64).toUInt8]
  else
    [(0xF0 + n / 262144).toUInt8, (0x80 + n / 4096 % 64).toUInt8, (0x80 + n / 64 % 64).toUInt8,
      (0x80 + n % 64).toUInt8]

/-- Whether a code point is a half that stands for a byte beyond ASCII: the last of its number. -/
def isByteHalf (c : CodePoint) : Bool := 0xDC80 ≤ c.toNat && c.toNat ≤ 0xDCFF

/-- The bytes of a code point. -/
def encodePoint : CodePoint → List UInt8
  | .char c => encodeChar c
  | c => if isByteHalf c then [c.toNat.toUInt8] else []

/-- The bytes of a text. -/
def encode (s : Text) : List UInt8 := s.flatMap encodePoint

/-- Halves that stand in a text: how many code points come before them, how many they are, and the
    first of them. -/
structure Halves where
  start : Nat
  count : Nat
  first : CodePoint
deriving DecidableEq, Repr

/-- The first halves in a text that are not allowed, with all that follow them at once. -/
def strayHalves? (allowed : CodePoint → Bool) (s : Text) : Option Halves :=
  let before := s.takeWhile fun c => !c.isHalf || allowed c
  match s.drop before.length with
  | [] => none
  | c :: rest => some ⟨before.length, 1 + (rest.takeWhile CodePoint.isHalf).length, c⟩

/-- A text without halves has no stray ones. -/
theorem strayHalves?_ofChars (allowed : CodePoint → Bool) (cs : List Char) :
    strayHalves? allowed (ofChars cs) = none := by
  have all : (ofChars cs).takeWhile (fun c => !c.isHalf || allowed c) = ofChars cs := by
    unfold ofChars
    induction cs with
    | nil => rfl
    | cons c rest ih => simp [ih]
  simp [strayHalves?, all]

/-- What a lead byte announces: its own bits, the range of the next byte, and how many
    continuation bytes follow in all. The narrowed ranges keep out overlong forms, surrogates and
    what lies beyond the last code point. -/
def leadByte (b : Nat) : Option (Nat × Nat × Nat × Nat) :=
  if b < 0xC2 then none
  else if b < 0xE0 then some (b - 0xC0, 0x80, 0xBF, 1)
  else if b < 0xF0 then
    some (b - 0xE0, if b = 0xE0 then 0xA0 else 0x80, if b = 0xED then 0x9F else 0xBF, 2)
  else if b < 0xF5 then
    some (b - 0xF0, if b = 0xF0 then 0x90 else 0x80, if b = 0xF4 then 0x8F else 0xBF, 3)
  else none

/-- A character begun earlier: the bits so far, the range of the next byte, and how many bytes
    are still to come. -/
structure Begun where
  bits : Nat
  lo : Nat
  hi : Nat
  missing : Nat

/-- What a byte ends, each a character or a stretch that is not well formed, and the character that
    is begun after it. A byte that cannot go on with a begun character ends it and is read anew. -/
def advance (begun : Option Begun) (b : Nat) : List (Option Char) × Option Begun :=
  let anew : List (Option Char) × Option Begun :=
    if b < 0x80 then ([some (Char.ofNat b)], none)
    else match leadByte b with
      | some (bits, lo, hi, missing) => ([], some ⟨bits, lo, hi, missing⟩)
      | none => ([none], none)
  match begun with
  | none => anew
  | some p =>
    if p.lo ≤ b ∧ b ≤ p.hi then
      let bits := p.bits * 64 + (b - 0x80)
      if p.missing ≤ 1 then ([some (Char.ofNat bits)], none)
      else ([], some ⟨bits, 0x80, 0xBF, p.missing - 1⟩)
    else (none :: anew.1, anew.2)

/-- The characters of some bytes, nothing standing for every stretch that is not well formed. -/
def decoded : Option Begun → List UInt8 → List (Option Char)
  | none, [] => []
  | some _, [] => [none]
  | begun, byte :: rest =>
    let (ended, begun) := advance begun byte.toNat
    ended ++ decoded begun rest

/-- The text of some bytes, or nothing if they are not well formed. -/
def decode? (bytes : List UInt8) : Option Text := ((decoded none bytes).mapM id).map ofChars

/-- The text of some bytes, the replacement character standing for what is not well formed. -/
def decodeReplacing (bytes : List UInt8) : Text :=
  ofChars ((decoded none bytes).map fun c => c.getD '\uFFFD')

/-- What is wrong with bytes that are not well formed. -/
inductive ByteFault
  /-- No character begins with the byte. -/
  | noStart
  /-- Another byte breaks off the character that they begin. -/
  | brokenOff
  /-- The text ends before the character that they begin. -/
  | cutShort
deriving DecidableEq, Repr

/-- The words for a fault. -/
def ByteFault.message : ByteFault → String
  | .noStart => "invalid start byte"
  | .brokenOff => "invalid continuation byte"
  | .cutShort => "unexpected end of data"

/-- Bytes that are not well formed: how many come before them, how many they are, and the first of
    them. -/
structure StrayBytes where
  start : Nat
  count : Nat
  first : UInt8
  fault : ByteFault
deriving DecidableEq, Repr

/-- A character begun earlier, with the place and the value of its first byte. -/
structure Opened where
  start : Nat
  first : UInt8
  begun : Begun

/-- The bytes of a begun character that is not completed, up to a place. -/
def Opened.stray (o : Opened) (place : Nat) (fault : ByteFault) : StrayBytes :=
  ⟨o.start, place - o.start, o.first, fault⟩

/-- The first bytes that are not well formed from a place on, where a character may be begun. -/
def strayBytes? : Nat → Option Opened → List UInt8 → Option StrayBytes
  | _, none, [] => none
  | place, some o, [] => some (o.stray place .cutShort)
  | place, none, byte :: rest =>
    let (ended, begun) := advance none byte.toNat
    if none ∈ ended then some ⟨place, 1, byte, .noStart⟩
    else strayBytes? (place + 1) (begun.map fun p => ⟨place, byte, p⟩) rest
  | place, some o, byte :: rest =>
    let (ended, begun) := advance (some o.begun) byte.toNat
    if none ∈ ended then some (o.stray place .brokenOff)
    else strayBytes? (place + 1) (begun.map fun p => { o with begun := p }) rest

/-- The text of some bytes, or the first of them that are not well formed. -/
def decodeStrictly (bytes : List UInt8) : Except StrayBytes Text :=
  match strayBytes? 0 none bytes with
  | some stray => .error stray
  | none => .ok (decodeReplacing bytes)

/-- There are stray bytes exactly if something is decoded that is not well formed. -/
theorem strayBytes?_eq_none_iff (place : Nat) (opened : Option Opened) (bytes : List UInt8) :
    strayBytes? place opened bytes = none ↔ none ∉ decoded (opened.map (·.begun)) bytes := by
  induction bytes generalizing place opened with
  | nil => cases opened <;> simp [strayBytes?, decoded]
  | cons byte rest ih =>
    have again (next : Option Begun) (opens : Begun → Opened) (same : ∀ p, (opens p).begun = p) :
        strayBytes? (place + 1) (next.map opens) rest = none ↔ none ∉ decoded next rest := by
      rw [ih, Option.map_map]
      cases next with
      | none => rfl
      | some p => simp [same]
    cases opened with
    | none =>
      simp only [strayBytes?, decoded, Option.map_none, List.mem_append, not_or]
      split
      · rename_i inside
        simp [inside]
      · rename_i outside
        rw [again _ _ fun _ => rfl, and_iff_right outside]
    | some o =>
      simp only [strayBytes?, decoded, Option.map_some, List.mem_append, not_or]
      split
      · rename_i inside
        simp [inside]
      · rename_i outside
        rw [again _ _ fun _ => rfl, and_iff_right outside]

theorem mapM_id_eq (fallback : Char) (cs : List (Option Char)) :
    cs.mapM id = if none ∈ cs then none else some (cs.map (·.getD fallback)) := by
  induction cs with
  | nil => rfl
  | cons c cs ih =>
    rw [List.mapM_cons, ih]
    cases c with
    | none => simp
    | some c => by_cases inside : none ∈ cs <;> simp [inside]

/-- Bytes are decoded strictly exactly if they are decoded, and to the same text. -/
theorem decodeStrictly_eq_ok_iff (bytes : List UInt8) (s : Text) :
    decodeStrictly bytes = .ok s ↔ decode? bytes = some s := by
  have strays : strayBytes? 0 none bytes = none ↔ none ∉ decoded none bytes :=
    strayBytes?_eq_none_iff 0 none bytes
  rw [decodeStrictly, decode?, mapM_id_eq '\uFFFD']
  by_cases clear : none ∈ decoded none bytes
  · cases found : strayBytes? 0 none bytes with
    | none => exact absurd clear (strays.mp found)
    | some stray => simp [clear]
  · rw [strays.mpr clear]
    simp [clear, decodeReplacing]

end ClusterPrep.Text
