import ClusterPrep.Settings.Basic
import ClusterPrep.Settings.Notice
import ClusterPrep.Text.Utf8
import ClusterPrep.Toml.Reader

set_option autoImplicit false

/-
  Settings from a file. A value that cannot be used or is out of range is noted and leaves the
  default; so does a file that cannot be read.
-/
namespace ClusterPrep.Settings

/-- The name of the settings file. -/
def fileName : Text := "config.toml"

/-- The root table of a settings file. -/
def parse (bytes : List UInt8) (nesting : Nesting := .usual) : Except Unreadable Toml.Fields :=
  match Text.decode? bytes with
  | none => .error .notUtf8
  | some s =>
    match Toml.read s nesting with
    | .ok root => .ok root
    | .error .malformed => .error .notToml
    | .error .longNumeral => .error .longNumeral
    | .error .tooDeep => .error (.tooDeep "array")

/-- The value that a file gives for a setting. -/
def given? (root : Toml.Fields) (st : Setting) : Option Value :=
  match root.lookup st.table with
  | some (.table t) => t.lookup st.key
  | _ => none

/-- Settings and what was noted on the way to them. -/
abbrev Noted := Settings × List Notice

/-- The notices with one more. A notice that cannot be written is left out: nothing that is noted
    stops the reading. -/
def noting (notices : List Notice) : Attempt Notice → List Notice
  | .ok notice => notices ++ [notice]
  | .error _ => notices

/-- Take over one setting from a file. -/
def take (root : Toml.Fields) (sn : Noted) (st : Setting) : Attempt Noted :=
  match given? root st with
  | none => return sn
  | some v =>
    match sn.1.assign v st with
    | .ok s => return (s, sn.2)
    | .error e =>
      if e.kind = .badValue ∨ e.kind = .badType then
        return (sn.1, noting sn.2 do return .invalidSetting st.table st.key (← v.literal))
      else throw e

/-- Put one setting back to its default if it is out of range. -/
def restrict (sn : Noted) (st : Setting) : Noted :=
  if sn.1.inRange st then sn
  else
    (sn.1.reset st, noting sn.2 do
      let shown ← (sn.1.get st).literal
      let default ← (({} : Settings).get st).literal
      return .settingOutOfRange st.table st.key shown default)

/-- The settings of a table. -/
def ofTable (root : Toml.Fields) : Attempt Noted := do
  let sn ← Setting.all.foldlM (take root) ({}, [])
  return Setting.all.foldl restrict sn

/-- The settings of a file that may be missing. -/
def load (file : Option (List UInt8)) (nesting : Nesting := .usual) : Attempt Noted :=
  match file with
  | none => return ({}, [])
  | some bytes =>
    match parse bytes nesting with
    | .ok root => ofTable root
    | .error reason => return ({}, [.unreadableSettings fileName reason])

end ClusterPrep.Settings
