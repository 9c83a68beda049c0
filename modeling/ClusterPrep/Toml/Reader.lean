import ClusterPrep.Nesting
import ClusterPrep.Toml.Scalar

set_option autoImplicit false

/-
  Reading TOML: values, and statements line by line.
-/
namespace ClusterPrep.Toml

/-- What follows a comment in front of a text, if there is one. -/
def skipComment : Text → Except Error Text
  | '#' :: rest =>
    if (rest.takeWhile (· ≠ .char '\n')).any isControl then throw .malformed
    else return rest.dropWhile (· ≠ .char '\n')
  | s => return s

/-- What follows blanks, line feeds and comments. The first argument bounds the comments. -/
def skipFiller : Nat → Text → Except Error Text
  | 0, s => return s
  | k + 1, s =>
    match s.dropWhile fun c => isSpace c || c == '\n' with
    | '#' :: rest => do skipFiller k (← skipComment ('#' :: rest))
    | s => return s

/-- What follows blanks, line feeds and comments in front of a text. -/
def skipAll (s : Text) : Except Error Text := skipFiller (s.length + 1) s

mutual

/-- A value in front of a text. The first argument bounds the values and brackets still to come,
    the second the levels that open brackets can still take. -/
def value : Nat → Nat → Text → Except Error (Value × Text)
  | 0, _, _ => throw .malformed
  | k + 1, depth, s =>
    match s, depth with
    | '"' :: _, _ | '\'' :: _, _ => do
      let (t, rest) ← string s
      return (.text t, rest)
    | '[' :: rest, depth + 2 => do
      match ← skipAll rest with
      | ']' :: rest => return (.list [], rest)
      | rest =>
        let (vs, rest) ← items k depth rest
        return (.list vs, rest)
    | '\x7b' :: rest, depth + 3 =>
      match skipSpace rest with
      | '\x7d' :: rest => return (.table [], rest)
      | rest => do
        let (t, rest) ← fields k depth [] [] rest
        return (.table t, rest)
    | '[' :: _, _ | '\x7b' :: _, _ => throw .tooDeep
    | s, _ =>
      if ("true" : Text).isPrefixOf s then return (.bool true, s.drop 4)
      else if ("false" : Text).isPrefixOf s then return (.bool false, s.drop 5)
      else match moment s with
        | some r => do
          let (m, rest) ← r
          return (.moment m, rest)
        | none => number s

/-- The items of an array up to its closing bracket. -/
def items : Nat → Nat → Text → Except Error (List Value × Text)
  | 0, _, _ => throw .malformed
  | k + 1, depth, s => do
    let (v, rest) ← value k depth s
    match ← skipAll rest with
    | ']' :: rest => return ([v], rest)
    | ',' :: rest =>
      match ← skipAll rest with
      | ']' :: rest => return ([v], rest)
      | rest =>
        let (vs, rest) ← items k depth rest
        return (v :: vs, rest)
    | _ => throw .malformed

/-- The fields of an inline table up to its closing bracket, after those in `before`, of which the
    paths in `frozen` cannot change. -/
def fields : Nat → Nat → Marks → Fields → Text → Except Error (Fields × Text)
  | 0, _, _, _, _ => throw .malformed
  | k + 1, depth, frozen, before, s => do
    let (path, rest) ← key (s.length + 1) s
    match rest with
    | '=' :: rest =>
      let (v, rest) ← value k depth (skipSpace rest)
      if frozen.has path .frozen then throw .malformed
      let name := path.getLast?.getD []
      let now ← change false (addField name v) path.dropLast before
      match skipSpace rest with
      | '\x7d' :: rest => return (now, rest)
      | ',' :: rest =>
        let frozen := if isInline v then (path, Mark.frozen) :: frozen else frozen
        fields k depth frozen now (skipSpace rest)
      | _ => throw .malformed
    | _ => throw .malformed

end

/-- A key, an equals sign and a value in front of a text. -/
def pair (nesting : Nesting) (s : Text) : Except Error ((Path × Value) × Text) := do
  let (path, rest) ← key (s.length + 1) s
  match rest with
  | '=' :: rest =>
    let rest := skipSpace rest
    let (v, rest) ← value (2 * rest.length + 1) nesting.toml rest
    return ((path, v), rest)
  | _ => throw .malformed

/-- One statement in front of a text: a header, a field, or nothing. -/
def statement (nesting : Nesting) (d : Document) (s : Text) : Except Error (Document × Text) :=
  match s with
  | [] => return (d, [])
  | '[' :: '[' :: rest => do
    let rest := skipSpace rest
    let (path, rest) ← key (rest.length + 1) rest
    let d ← d.openElement path
    match rest with
    | ']' :: ']' :: rest => return (d, rest)
    | _ => throw .malformed
  | '[' :: rest => do
    let rest := skipSpace rest
    let (path, rest) ← key (rest.length + 1) rest
    let d ← d.openTable path
    match rest with
    | ']' :: rest => return (d, rest)
    | _ => throw .malformed
  | c :: _ =>
    if c = '\n' ∨ c = '#' then return (d, s)
    else do
      let ((path, v), rest) ← pair nesting s
      return (← d.setField path v, rest)

/-- All statements of a text. The first argument bounds their number. -/
def statements (nesting : Nesting) : Nat → Document → Text → Except Error Document
  | 0, d, _ => return d
  | k + 1, d, s => do
    let (d, rest) ← statement nesting d (skipSpace s)
    match ← skipComment (skipSpace rest) with
    | [] => return d
    | '\n' :: rest => statements nesting k d rest
    | _ => throw .malformed

/-- A carriage return and a line feed become a line feed. -/
def unifyPairs : Text → Text
  | '\r' :: '\n' :: rest => '\n' :: unifyPairs rest
  | c :: rest => c :: unifyPairs rest
  | [] => []

/-- The root table of a TOML text. -/
def read (s : Text) (nesting : Nesting := .usual) : Except Error Fields := do
  let s := unifyPairs s
  let d ← statements nesting (s.length + 1) {} s
  return d.root

end ClusterPrep.Toml
