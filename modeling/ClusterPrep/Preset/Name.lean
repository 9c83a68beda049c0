import ClusterPrep.Failure
import ClusterPrep.Text.Search

set_option autoImplicit false

/-
  Names of presets. A name is also the name of a file, so that only plain ones are taken.
-/
namespace ClusterPrep.Preset

/-- The greatest length of a name. -/
def maxNameLength : Nat := 64

/-- A letter or digit of ASCII. -/
def isNameStart (c : CodePoint) : Bool := c.isAlphanum

/-- A character that a name may hold. -/
def isNameChar (c : CodePoint) : Bool :=
  c.isAlphanum || c == '_' || c == ' ' || c == '.' || c == '-'

/-- Whether a text has the form of a name. -/
def isName : Text → Bool
  | [] => false
  | c :: rest => isNameStart c && rest.all isNameChar && !Text.hasPiece ".." (c :: rest)

/-- The name that a text stands for. -/
def checkName (s : Text) : Attempt Text :=
  let s := Text.strip s
  if s.isEmpty then throw .emptyPresetName
  else if maxNameLength < s.length then throw (.longPresetName maxNameLength)
  else if isName s then return s
  else throw (.badPresetName s)

/-- The ending of the files that hold presets. -/
def ending : Text := ".json"

/-- The file that holds the preset of a name. -/
def fileOf (name : Text) : Text := name ++ ending

/-- The file of a text that stands for a name. -/
def pathOf (s : Text) : Attempt Text := return fileOf (← checkName s)

/-- The name of the preset in a file, if the file holds one. The ending alone is a name too. -/
def nameOf? (file : Text) : Option Text :=
  if ending.isSuffixOf file then
    let stem := file.take (file.length - ending.length)
    some (if stem.isEmpty then file else stem)
  else none

end ClusterPrep.Preset
