import ClusterPrep.Files.Tree
import ClusterPrep.Preset.Name
import ClusterPrep.Hpl.Check
import ClusterPrep.Json.Reader
import ClusterPrep.Json.Writer
import ClusterPrep.Settings.Notice
import ClusterPrep.Text.LetterCase
import ClusterPrep.Text.Utf8

set_option autoImplicit false

/-
  Presets: named configurations, each in a file of its own in one directory.
-/
namespace ClusterPrep.Preset

/-- The files of the directory: their names, all different, and their bytes. -/
abbrev Store := List (Text × List UInt8)

namespace Store

/-- The bytes of a file. -/
def file? (store : Store) (name : Text) : Option (List UInt8) := store.lookup name

/-- The store with a file written. -/
def putFile (name : Text) (bytes : List UInt8) : Store → Store
  | [] => [(name, bytes)]
  | (n, b) :: rest => if n = name then (n, bytes) :: rest else (n, b) :: putFile name bytes rest

/-- The store without a file. -/
def removeFile (store : Store) (name : Text) : Store := store.filter fun f => f.1 ≠ name

theorem file?_putFile_self (store : Store) (name : Text) (bytes : List UInt8) :
    (store.putFile name bytes).file? name = some bytes := by
  induction store with
  | nil => simp [putFile, file?]
  | cons f rest ih =>
    obtain ⟨n, b⟩ := f
    by_cases h : n = name
    · simp [putFile, file?, h]
    · have away : (name == n) = false := by simpa using Ne.symm h
      simp only [file?] at ih
      simp [putFile, file?, h, List.lookup_cons, away, ih]

theorem file?_putFile_of_ne (store : Store) (name other : Text) (bytes : List UInt8)
    (h : other ≠ name) : (store.putFile name bytes).file? other = store.file? other := by
  induction store with
  | nil => simp [putFile, file?, List.lookup_cons, beq_eq_false_iff_ne.mpr h]
  | cons f rest ih =>
    obtain ⟨n, b⟩ := f
    simp only [file?] at ih
    by_cases hn : n = name
    · subst hn
      simp [putFile, file?, List.lookup_cons, beq_eq_false_iff_ne.mpr h]
    · simp [putFile, file?, hn, List.lookup_cons, ih]

theorem file?_removeFile_self (store : Store) (name : Text) :
    (store.removeFile name).file? name = none := by
  simp only [removeFile, file?, List.lookup_eq_none_iff, List.mem_filter]
  intro f kept
  exact bne_iff_ne.mpr (Ne.symm (of_decide_eq_true kept.2))

theorem file?_removeFile_of_ne (store : Store) (name other : Text) (h : other ≠ name) :
    (store.removeFile name).file? other = store.file? other := by
  induction store with
  | nil => rfl
  | cons f rest ih =>
    obtain ⟨n, b⟩ := f
    simp only [removeFile, file?, ne_eq, decide_not] at ih ⊢
    by_cases hn : n = name
    · subst hn
      simp [List.lookup_cons, beq_eq_false_iff_ne.mpr h, ih]
    · simp [hn, List.lookup_cons, ih]

/-- The name of the file that a path from the directory leads to. The directory holds no others. -/
def fileName (path : Text) : Attempt Text :=
  let parsed := Files.Path.ofText path
  match Files.pathFailure? path, parsed.slashes, parsed.names with
  | some e, _, _ => throw e
  | none, 0, [] => throw (.file .isDirectory)
  | none, 0, [name] =>
    if name = ".." then throw (.file .isDirectory)
    else if Files.Tree.maxNameBytes < (Text.encode name).length then throw (.file .nameTooLong)
    else return name
  | none, _, _ => throw (.file .missing)

/-- The store with a file written at a path. -/
def putAt (store : Store) (path : Text) (bytes : List UInt8) : Attempt Store := do
  return store.putFile (← fileName path) bytes

/-- The bytes of the file at a path. -/
def bytesAt (store : Store) (path : Text) : Attempt (List UInt8) := do
  match store.file? (← fileName path) with
  | some bytes => return bytes
  | none => throw (.file .missing)

/-- Whether one text comes before another or is the same, by code points. -/
def textLe : Text → Text → Bool
  | [], _ => true
  | _ :: _, [] => false
  | a :: s, b :: t => if a = b then textLe s t else a.toNat ≤ b.toNat

/-- The names of the presets, in the order of their small forms. -/
def names (store : Store) : List Text :=
  (store.filterMap fun f => nameOf? f.1).mergeSort fun a b => textLe (Text.lower a) (Text.lower b)

/-- The content of a preset file. -/
def fileText (c : Hpl.Config) : Attempt Text :=
  return (← Json.write 0 (.table c.toTable)) ++ "\n"

/-- Save a configuration under a name; the file that now holds it. -/
def save (store : Store) (name : Text) (c : Hpl.Config) : Attempt (Store × Text) := do
  let file ← pathOf name
  let text ← fileText c
  return (store.putFile file (Text.encode text), file)

/-- The value in a preset file. -/
def parse (bytes : List UInt8) (nesting : Nesting := .usual) : Except Unreadable Value :=
  match Text.decode? bytes with
  | none => .error .notUtf8
  | some s =>
    match Json.read (Text.unifyNewlines s) nesting with
    | .ok v => .ok v
    | .error .malformed => .error .notJson
    | .error .longNumeral => .error .longNumeral
    | .error (.tooDeep kind) => .error (.tooDeep kind)

/-- The fields of a value that holds some field of a configuration. -/
def knownFields? : Value → Option (List (Text × Value))
  | .table fields =>
    if fields.any fun kv => (Hpl.Field.ofKey? kv.1).isSome then some fields else none
  | _ => none

/-- Load the preset of a name, and what is noted about it. There is none if its file is missing,
    cannot be read or holds no field of a configuration; one that is nested too deeply fails. -/
def load (store : Store) (name : Text) (nesting : Nesting := .usual) :
    Attempt (Option Hpl.Config × List Notice) := do
  let file ← pathOf name
  match store.file? file with
  | none => return (none, [])
  | some bytes =>
    match parse bytes nesting with
    | .error (.tooDeep kind) => throw (.tooDeep kind)
    | .error reason => return (none, [.unreadablePreset file reason])
    | .ok v =>
      match knownFields? v with
      | none => return (none, [.emptyPreset file])
      | some fields =>
        let c := Hpl.Config.ofTable fields
        let problems ← Hpl.problems c .null
        return (some c, problems.map (.presetProblem name))

/-- Delete the preset of a name; whether there was one. -/
def delete (store : Store) (name : Text) : Attempt (Store × Bool) := do
  let file ← pathOf name
  return (store.removeFile file, (store.file? file).isSome)

end Store

end ClusterPrep.Preset
