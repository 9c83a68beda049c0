import ClusterPrep.Failure

set_option autoImplicit false

/-
  What is noted while files are read: that something in them was passed over.
-/
namespace ClusterPrep

/-- Why the content of a file could not be used. -/
inductive Unreadable
  | notUtf8
  | notToml
  | notJson
  /-- It holds a numeral that is too long to read. -/
  | longNumeral
  /-- Its brackets are nested too deeply, the last of them that of a value of this kind. -/
  | tooDeep (kind : String)
  | file (error : FileError)
deriving DecidableEq, Repr

inductive NoticeLevel
  | info
  | warning
deriving DecidableEq, Repr

/-- A note for the user. -/
inductive Notice
  | unreadableSettings (file : Text) (reason : Unreadable)
  | invalidSetting (table key shown : Text)
  | settingOutOfRange (table key shown default : Text)
  | unreadablePreset (file : Text) (reason : Unreadable)
  | emptyPreset (file : Text)
  | presetProblem (name : Text) (problem : Text)
deriving DecidableEq, Repr

namespace Notice

def level : Notice → NoticeLevel
  | presetProblem .. => .info
  | _ => .warning

/-- The words for a notice, when the reasons of unreadable files are worded by `reasonText`. -/
def message (reasonText : Unreadable → Text) : Notice → Text
  | unreadableSettings file reason =>
    "Ignoring unreadable config " ++ file ++ ": " ++ reasonText reason
  | invalidSetting table key shown =>
    "Ignoring invalid [" ++ table ++ "] " ++ key ++ " = " ++
      shown
  | settingOutOfRange table key shown default =>
    "[" ++ table ++ "] " ++ key ++ " = " ++ shown ++
      " is out of range, using " ++ default
  | unreadablePreset file reason =>
    "Unreadable preset " ++ file ++ ": " ++ reasonText reason
  | emptyPreset file => "Preset " ++ file ++ " holds no HPL.dat fields"
  | presetProblem name problem =>
    "Preset " ++ Text.quoted name ++ ": " ++ problem

end Notice

end ClusterPrep
