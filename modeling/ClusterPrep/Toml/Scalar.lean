import ClusterPrep.Toml.Document
import ClusterPrep.Json.Reader

set_option autoImplicit false

/-
  The single values and the keys of TOML, each read from the front of a text.
-/
namespace ClusterPrep.Toml

def isSpace (c : CodePoint) : Bool := c == ' ' || c == '\t'

def skipSpace (s : Text) : Text := s.dropWhile isSpace

/-- A control character, the tab left out. -/
def isControl (c : CodePoint) : Bool := (c.toNat < 32 && c != '\t') || c.toNat == 127

/-- A character that keys hold without quotes. -/
def isBareKey (c : CodePoint) : Bool := c.isAlphanum || c == '-' || c == '_'

/-- The character of a numeric escape. -/
def scalarChar? (digits : Text) : Option Char :=
  match Json.hexNumber? digits with
  | some n => if n < 0xD800 ∨ (0xDFFF < n ∧ n < 0x110000) then some (Char.ofNat n) else none
  | none => none

/-- The character of a one-letter escape. -/
def escapeChar? : CodePoint → Option CodePoint
  | '"' => some '"'
  | '\\' => some '\\'
  | 'b' => some (Char.ofNat 8)
  | 'f' => some (Char.ofNat 12)
  | 'n' => some '\n'
  | 'r' => some '\r'
  | 't' => some '\t'
  | _ => none

/-- What to pass over before going on with a string of several lines. -/
inductive Skipping
  | nothing
  /-- A backslash was read: blanks up to the end of the line. -/
  | toLineEnd
  /-- The line has ended: blanks and line feeds. -/
  | blanks
deriving DecidableEq

/-- The rest of a string with escapes after its opening quotes, and what follows the closing ones;
    `many` for a string of several lines. -/
def basicBody (many : Bool) (skipping : Skipping) : Text → Except Error (Text × Text)
  | [] => throw .malformed
  | '\\' :: 'u' :: a :: b :: c :: d :: rest =>
    if skipping = .toLineEnd then throw .malformed
    else match scalarChar? [a, b, c, d] with
      | some x => do
        let (s, rest) ← basicBody many .nothing rest
        return (x :: s, rest)
      | none => throw .malformed
  | '\\' :: 'U' :: a :: b :: c :: d :: e :: f :: g :: h :: rest =>
    if skipping = .toLineEnd then throw .malformed
    else match scalarChar? [a, b, c, d, e, f, g, h] with
      | some x => do
        let (s, rest) ← basicBody many .nothing rest
        return (x :: s, rest)
      | none => throw .malformed
  | '\\' :: e :: rest =>
    if skipping = .toLineEnd then throw .malformed
    else if many && (isSpace e || e == '\n') then
      basicBody many (if e = '\n' then .blanks else .toLineEnd) rest
    else match escapeChar? e with
      | some x => do
        let (s, rest) ← basicBody many .nothing rest
        return (x :: s, rest)
      | none => throw .malformed
  | c :: rest =>
    if skipping ≠ .nothing ∧ isSpace c then basicBody many skipping rest
    else if skipping ≠ .nothing ∧ c = '\n' then basicBody many .blanks rest
    else if skipping = .toLineEnd then throw .malformed
    else if c = '"' ∧ !many then return ([], rest)
    else if c = '"' ∧ ("\"\"" : Text).isPrefixOf rest then return ([], rest.drop 2)
    else if c = '\\' ∨ isControl c ∧ !(many ∧ c = '\n') then throw .malformed
    else do
      let (s, rest) ← basicBody many .nothing rest
      return (c :: s, rest)

/-- The rest of a string without escapes after its opening quotes. -/
def literalBody (many : Bool) : Text → Except Error (Text × Text)
  | [] => throw .malformed
  | c :: rest =>
    if c = '\'' ∧ !many then return ([], rest)
    else if c = '\'' ∧ ("''" : Text).isPrefixOf rest then return ([], rest.drop 2)
    else if isControl c ∧ !(many ∧ c = '\n') then throw .malformed
    else do
      let (s, rest) ← literalBody many rest
      return (c :: s, rest)

/-- Up to two quotes that come before the closing three belong to the string. -/
def extraQuotes (q : CodePoint) (s rest : Text) : Text × Text :=
  match rest with
  | c :: d :: rest' =>
    if c = q then if d = q then (s ++ [q, q], rest') else (s ++ [q], d :: rest') else (s, rest)
  | [c] => if c = q then (s ++ [q], []) else (s, rest)
  | [] => (s, rest)

/-- The line feed right after the opening quotes is no part of the string. -/
def dropLineFeed : Text → Text
  | '\n' :: rest => rest
  | s => s

/-- A string in front of a text. -/
def string (s : Text) : Except Error (Text × Text) :=
  if ("\"\"\"" : Text).isPrefixOf s then do
    let (t, rest) ← basicBody true .nothing (dropLineFeed (s.drop 3))
    return extraQuotes '"' t rest
  else if ("'''" : Text).isPrefixOf s then do
    let (t, rest) ← literalBody true (dropLineFeed (s.drop 3))
    return extraQuotes '\'' t rest
  else match s with
    | '"' :: rest => basicBody false .nothing rest
    | '\'' :: rest => literalBody false rest
    | _ => throw .malformed

/-- One part of a key. -/
def keyPart (s : Text) : Except Error (Text × Text) :=
  match s with
  | '"' :: rest => basicBody false .nothing rest
  | '\'' :: rest => literalBody false rest
  | s =>
    match s.takeWhile isBareKey with
    | [] => throw .malformed
    | key => return (key, s.dropWhile isBareKey)

/-- A key of one or more parts with dots between them, and what follows it. The first argument
    bounds the parts. -/
def key : Nat → Text → Except Error (Path × Text)
  | 0, _ => throw .malformed
  | k + 1, s => do
    let (part, rest) ← keyPart s
    match skipSpace rest with
    | '.' :: rest => do
      let (parts, rest) ← key k (skipSpace rest)
      return (part :: parts, rest)
    | rest => return ([part], rest)

/-- Exactly `n` ASCII digits in front, as a number. -/
def fixedDigits (n : Nat) (s : Text) : Option (Nat × Text) :=
  let ds := s.take n
  if ds.length = n ∧ ds.all CodePoint.isDigit then
    some (Numeral.ofDigits (ds.map fun c => c.toNat - 48), s.drop n)
  else none

/-- A number of two digits from `lo` to `hi` after the character `before`. -/
def component (before : Option Char) (lo hi : Nat) (s : Text) : Option (Nat × Text) := do
  let s ← match before, s with
    | none, s => some s
    | some b, c :: rest => if c = b then some rest else none
    | some _, [] => none
  let (n, rest) ← fixedDigits 2 s
  if lo ≤ n ∧ n ≤ hi then some (n, rest) else none

/-- The millionths of a second after a point, if it is there; further digits are dropped. -/
def micros (s : Text) : Nat × Text :=
  match s with
  | '.' :: rest =>
    match rest.takeWhile CodePoint.isDigit with
    | [] => (0, s)
    | ds =>
      let six := (ds ++ Text.copies 6 '0').take 6
      (Numeral.ofDigits (six.map fun c => c.toNat - 48), rest.dropWhile CodePoint.isDigit)
  | _ => (0, s)

/-- A time of day in front of a text: hour, minute, second and millionths. -/
def clock (s : Text) : Option ((Nat × Nat × Nat × Nat) × Text) := do
  let (h, s) ← component none 0 23 s
  let (m, s) ← component (some ':') 0 59 s
  let (sec, s) ← component (some ':') 0 59 s
  let (u, s) := micros s
  return ((h, m, sec, u), s)

/-- The distance from universal time in minutes, if it is there. -/
def zone (s : Text) : Option Int × Text :=
  match s with
  | c :: rest =>
    if c = 'Z' ∨ c = 'z' then (some 0, rest)
    else if c = '+' ∨ c = '-' then
      match component none 0 23 rest with
      | some (h, r) =>
        match component (some ':') 0 59 r with
        | some (m, r) =>
          let offset : Int := (h * 60 + m : Nat)
          (some (if c = '-' then -offset else offset), r)
        | none => (none, s)
      | none => (none, s)
    else (none, s)
  | [] => (none, s)

def isLeapYear (y : Nat) : Bool := y % 4 == 0 && (y % 100 != 0 || y % 400 == 0)

def daysInMonth (y m : Nat) : Nat :=
  if m = 2 then if isLeapYear y then 29 else 28
  else if m = 4 ∨ m = 6 ∨ m = 9 ∨ m = 11 then 30
  else 31

/-- The three numbers of a date in front of a text. -/
def dateParts (s : Text) : Option ((Nat × Nat × Nat) × Text) := do
  let (y, s) ← fixedDigits 4 s
  let (m, s) ← component (some '-') 1 12 s
  let (d, s) ← component (some '-') 1 31 s
  return ((y, m, d), s)

/-- A point in time in front of a text, if there is one. A date that the calendar does not have is
    malformed. -/
def moment (s : Text) : Option (Except Error (Moment × Text)) :=
  match dateParts s with
  | some ((y, m, d), rest) =>
    if y = 0 ∨ daysInMonth y m < d then some (throw .malformed)
    else
      let time : Option ((Nat × Nat × Nat × Nat) × Text) := match rest with
        | c :: r => if c = 'T' ∨ c = 't' ∨ c = ' ' then clock r else none
        | [] => none
      match time with
      | some ((h, mi, sec, u), rest) =>
        let (offset, rest) := zone rest
        some (return (.dateTime y m d h mi sec u offset, rest))
      | none => some (return (.date y m d, rest))
  | none =>
    match clock s with
    | some ((h, mi, sec, u), rest) => some (return (.clock h mi sec u, rest))
    | none => none

/-- Digits of a class in front, single underscores between them: the digits and what follows. A
    first digit is demanded; `after` tells whether there was one. -/
def groupedDigits (isDigit : CodePoint → Bool) (after : Bool) : Text → Text × Text
  | [] => ([], [])
  | c :: rest =>
    if isDigit c then
      let r := groupedDigits isDigit true rest
      (c :: r.1, r.2)
    else match after, c, rest with
      | true, '_', d :: _ =>
        if isDigit d then groupedDigits isDigit false rest else ([], c :: rest)
      | _, _, _ => ([], c :: rest)

/-- A whole number in base two, eight or sixteen after its mark, if there is one. -/
def based (s : Text) : Option (Int × Text) :=
  let go (base : Nat) (isDigit : CodePoint → Bool) (rest : Text) : Option (Int × Text) :=
    match groupedDigits isDigit false rest with
    | ([], _) => none
    | (ds, rest) =>
      some ((ds.foldl (fun n c => base * n + (Json.hexValue? c).getD 0) 0 : Nat), rest)
  match s with
  | '0' :: 'x' :: rest => go 16 (fun c => (Json.hexValue? c).isSome) rest
  | '0' :: 'b' :: rest => go 2 (fun c => c == '0' || c == '1') rest
  | '0' :: 'o' :: rest => go 8 (fun c => 48 ≤ c.toNat && c.toNat ≤ 55) rest
  | _ => none

/-- The whole part of a decimal numeral: a zero, or digits that begin with none. -/
def wholePart : Text → Text × Text
  | '0' :: rest => (['0'], rest)
  | s => groupedDigits CodePoint.isDigit false s

/-- The fraction of a decimal numeral, if it is there. -/
def fractionPart : Text → Text × Text
  | '.' :: rest =>
    match groupedDigits CodePoint.isDigit false rest with
    | ([], _) => ([], '.' :: rest)
    | (ds, rest) => ('.' :: ds, rest)
  | s => ([], s)

/-- The exponent of a decimal numeral, if it is there. -/
def exponentPart (s : Text) : Text × Text :=
  match s with
  | e :: rest =>
    if e = 'e' ∨ e = 'E' then
      let (sgn, body) : Text × Text := match rest with
        | '+' :: body => (['+'], body)
        | '-' :: body => (['-'], body)
        | body => ([], body)
      match groupedDigits CodePoint.isDigit false body with
      | ([], _) => ([], s)
      | (ds, rest) => (e :: sgn ++ ds, rest)
    else ([], s)
  | [] => ([], [])

/-- A number in front of a text. -/
def number (s : Text) : Except Error (Value × Text) :=
  match based s with
  | some (i, rest) => return (.int i, rest)
  | none =>
    let (sgn, body) : Text × Text := match s with
      | '+' :: body => (['+'], body)
      | '-' :: body => (['-'], body)
      | body => ([], body)
    match wholePart body with
    | ([], _) =>
      let neg := sgn == "-"
      if ("inf" : Text).isPrefixOf body then return (.real (.inf neg), body.drop 3)
      else if ("nan" : Text).isPrefixOf body then return (.real .nan, body.drop 3)
      else throw .malformed
    | (whole, rest) =>
      let (part, rest) := fractionPart rest
      let (exp, rest) := exponentPart rest
      if part.isEmpty ∧ exp.isEmpty then
        match Numeral.readInt (sgn ++ whole) with
        | .ok i => return (.int i, rest)
        | .error _ => throw .longNumeral
      else
        match Numeral.readReal (sgn ++ whole ++ part ++ exp) with
        | .ok x => return (.real x, rest)
        | .error _ => throw .malformed

end ClusterPrep.Toml
