import ClusterPrep.Text.CodePoint

set_option autoImplicit false

/-
  Texts.
-/
namespace ClusterPrep

/-- A text is the list of its code points. -/
abbrev Text := List CodePoint

namespace Text

/-- The text of a code point, `n` times. -/
def copies (n : Nat) (c : CodePoint) : Text := List.replicate n c

/-- The text of some characters. -/
def ofChars (cs : List Char) : Text := cs.map .char

/-- The text of a string. -/
def ofString (s : String) : Text := ofChars s.toList

/-- The text of a string that is spelled out: evaluation need not decode the string. -/
theorem ofString_ofList (cs : List Char) : ofString (String.ofList cs) = ofChars cs :=
  congrArg ofChars String.toList_ofList

/-- The string of a text, in which the replacement character stands for halves of surrogate
    pairs. -/
def string (s : Text) : String :=
  String.ofList (s.map fun
    | .char c => c
    | .half _ => '\uFFFD')

end Text

instance : Coe String Text := ⟨Text.ofString⟩

end ClusterPrep
