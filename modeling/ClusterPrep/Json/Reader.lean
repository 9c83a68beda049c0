import ClusterPrep.Nesting
import ClusterPrep.Value.Basic
import ClusterPrep.Number.Numeral

set_option autoImplicit false

/-
  Reading JSON. A number with a point or an exponent is a real, any other a whole number; the names
  of reals without value are accepted. Of several fields with one key the last counts. Two escapes
  can make up a surrogate pair; a half that stands alone is kept.
-/
namespace ClusterPrep.Json

/-- Why a text is not read. -/
inductive Error
  | malformed
  | longNumeral
  /-- Too many brackets are open, the last one that of a value of this kind. -/
  | tooDeep (kind : String)
deriving DecidableEq, Repr

def isSpace (c : CodePoint) : Bool := c == ' ' || c == '\t' || c == '\n' || c == '\r'

def skipSpace (s : Text) : Text := s.dropWhile isSpace

/-- The value of a hexadecimal digit. -/
def hexValue? (c : CodePoint) : Option Nat :=
  let n := c.toNat
  if 48 ≤ n ∧ n ≤ 57 then some (n - 48)
  else if 65 ≤ n ∧ n ≤ 70 then some (n - 55)
  else if 97 ≤ n ∧ n ≤ 102 then some (n - 87)
  else none

/-- The number that hexadecimal digits stand for. -/
def hexNumber? (s : Text) : Option Nat :=
  s.foldl (fun n c => n.bind fun n => (hexValue? c).map (16 * n + ·)) (some 0)

/-- The character of a one-letter escape. -/
def escapeChar? : CodePoint → Option CodePoint
  | '"' => some '"'
  | '\\' => some '\\'
  | '/' => some '/'
  | 'b' => some (Char.ofNat 8)
  | 'f' => some (Char.ofNat 12)
  | 'n' => some '\n'
  | 'r' => some '\r'
  | 't' => some '\t'
  | _ => none

/-- Whether a number is that of a first half. -/
def isHighHalf (n : Nat) : Bool := 0xD800 ≤ n && n ≤ 0xDBFF

/-- Whether a number is that of a second half. -/
def isLowHalf (n : Nat) : Bool := 0xDC00 ≤ n && n ≤ 0xDFFF

/-- What stands before a character of a string: nothing, or the first half of a surrogate pair. -/
abbrev Pending := Option Nat

/-- The character for a first half that no second half follows. -/
def flush : Pending → Text → Text
  | none, s => s
  | some hi, s => CodePoint.ofNat hi :: s

/-- The rest of a string after its opening quote, and what follows the closing one. -/
def stringBody (pending : Pending) : Text → Except Error (Text × Text)
  | '"' :: rest => .ok (flush pending [], rest)
  | '\\' :: 'u' :: a :: b :: c :: d :: rest =>
    match hexNumber? [a, b, c, d] with
    | none => .error .malformed
    | some n =>
      match pending, isHighHalf n, isLowHalf n with
      | some hi, _, true => do
        let (s, rest) ← stringBody none rest
        return (CodePoint.ofNat (0x10000 + (hi - 0xD800) * 0x400 + (n - 0xDC00)) :: s, rest)
      | p, true, _ => do
        let (s, rest) ← stringBody (some n) rest
        return (flush p s, rest)
      | p, false, _ => do
        let (s, rest) ← stringBody none rest
        return (flush p (CodePoint.ofNat n :: s), rest)
  | '\\' :: e :: rest =>
    match escapeChar? e with
    | some c => do
      let (s, rest) ← stringBody none rest
      return (flush pending (c :: s), rest)
    | none => .error .malformed
  | c :: rest =>
    if c.toNat < 32 ∨ c = '\\' then .error .malformed
    else do
      let (s, rest) ← stringBody none rest
      return (flush pending (c :: s), rest)
  | [] => .error .malformed

/-- ASCII digits in front and what follows them. -/
def digits (s : Text) : Text × Text :=
  (s.takeWhile CodePoint.isDigit, s.dropWhile CodePoint.isDigit)

/-- A fraction in front, if there is one. -/
def fractionPart : Text → Text × Text
  | '.' :: rest =>
    match digits rest with
    | ([], _) => ([], '.' :: rest)
    | (ds, rest) => ('.' :: ds, rest)
  | s => ([], s)

/-- An exponent in front, if there is one. -/
def exponentPart (s : Text) : Text × Text :=
  match s with
  | e :: rest =>
    if e = 'e' ∨ e = 'E' then
      let (sgn, body) : Text × Text := match rest with
        | '+' :: body => (['+'], body)
        | '-' :: body => (['-'], body)
        | body => ([], body)
      match digits body with
      | ([], _) => ([], s)
      | (ds, rest) => (e :: sgn ++ ds, rest)
    else ([], s)
  | [] => ([], [])

/-- The whole part of a number: a zero, or digits that begin with none. -/
def wholePart : Text → Text × Text
  | '0' :: rest => (['0'], rest)
  | s => digits s

/-- A number after its sign. -/
def unsignedNumber (sgn : Text) (s : Text) : Except Error (Value × Text) :=
  match wholePart s with
  | ([], _) => .error .malformed
  | (whole, rest) =>
    let (part, rest) := fractionPart rest
    let (exp, rest) := exponentPart rest
    if part.isEmpty ∧ exp.isEmpty then
      match Numeral.readInt (sgn ++ whole) with
      | .ok i => .ok (.int i, rest)
      | .error _ => .error .longNumeral
    else
      match Numeral.readReal (sgn ++ whole ++ part ++ exp) with
      | .ok x => .ok (.real x, rest)
      | .error _ => .error .malformed

/-- A value that does not begin with a bracket or a quote. -/
def atom (s : Text) : Except Error (Value × Text) :=
  if ("null" : Text).isPrefixOf s then .ok (.null, s.drop 4)
  else if ("true" : Text).isPrefixOf s then .ok (.bool true, s.drop 4)
  else if ("false" : Text).isPrefixOf s then .ok (.bool false, s.drop 5)
  else if ("NaN" : Text).isPrefixOf s then .ok (.real .nan, s.drop 3)
  else if ("Infinity" : Text).isPrefixOf s then .ok (.real (.inf false), s.drop 8)
  else if ("-Infinity" : Text).isPrefixOf s then .ok (.real (.inf true), s.drop 9)
  else match s with
    | '-' :: rest => unsignedNumber ['-'] rest
    | s => unsignedNumber [] s

mutual

/-- A value in front of a text. The first argument bounds the values and brackets still to come,
    the second those that can still be open at once. -/
def value : Nat → Nat → Text → Except Error (Value × Text)
  | 0, _, _ => .error .malformed
  | k + 1, depth, s =>
    match s, depth with
    | '"' :: rest, _ => do
      let (t, rest) ← stringBody none rest
      return (.text t, rest)
    | '[' :: _, 0 => .error (.tooDeep "array")
    | '[' :: rest, depth + 1 =>
      match skipSpace rest with
      | ']' :: rest => .ok (.list [], rest)
      | rest => do
        let (vs, rest) ← items k depth rest
        return (.list vs, rest)
    | '\x7b' :: _, 0 => .error (.tooDeep "object")
    | '\x7b' :: rest, depth + 1 =>
      match skipSpace rest with
      | '\x7d' :: rest => .ok (.table [], rest)
      | rest => do
        let (fs, rest) ← fields k depth [] rest
        return (.table fs, rest)
    | s, _ => atom s

/-- The items of a list up to its closing bracket. -/
def items : Nat → Nat → Text → Except Error (List Value × Text)
  | 0, _, _ => .error .malformed
  | k + 1, depth, s => do
    let (v, rest) ← value k depth s
    match skipSpace rest with
    | ',' :: rest => do
      let (vs, rest) ← items k depth (skipSpace rest)
      return (v :: vs, rest)
    | ']' :: rest => return ([v], rest)
    | _ => throw .malformed

/-- The fields of a table up to its closing bracket, after those in `before`. -/
def fields : Nat → Nat → List (Text × Value) → Text → Except Error (List (Text × Value) × Text)
  | 0, _, _, _ => .error .malformed
  | k + 1, depth, before, s =>
    match s with
    | '"' :: rest => do
      let (key, rest) ← stringBody none rest
      match skipSpace rest with
      | ':' :: rest => do
        let (v, rest) ← value k depth (skipSpace rest)
        let now := Value.set key v before
        match skipSpace rest with
        | ',' :: rest => fields k depth now (skipSpace rest)
        | '\x7d' :: rest => return (now, rest)
        | _ => throw .malformed
      | _ => throw .malformed
    | _ => throw .malformed

end

/-- The value that a JSON text holds. -/
def read (s : Text) (nesting : Nesting := .usual) : Except Error Value := do
  let (v, rest) ← value (2 * s.length + 1) nesting.json (skipSpace s)
  if (skipSpace rest).isEmpty then return v else throw .malformed

end ClusterPrep.Json
