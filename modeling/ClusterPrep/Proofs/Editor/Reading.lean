import ClusterPrep.Proofs.Editor.Rendering

set_option autoImplicit false

/-
  Reading the form. It holds a configuration exactly if every place holds what belongs there: a
  choice, one number, or numbers. Over any other form the first place that does not is blamed, by
  its label.
-/
namespace ClusterPrep

namespace Count

/-- A word that stands for a number, whole or real. -/
def IsNumeral (w : Text) : Prop :=
  (∃ i, Numeral.readInt w = .ok i) ∨ ∃ x, Numeral.readReal w = .ok x

end Count

namespace Editor

open ClusterPrep.Count (IsNumeral listWords)

/-- What a place of the form is to hold: a choice, the numeral of one number, or those of several
    numbers, one at least. Any text names an output file. -/
inductive Form.Legible (form : Form) : Slot → Prop
  | outFile {s : Text} (typed : form.entry .outFile = .text s) : Legible form .outFile
  | coded {f : Coded} (chosen : form.entry (.coded f) ≠ .null) : Legible form (.coded f)
  | amount {f : Amount} {s w : Text} (typed : form.entry (.amount f) = .text s)
      (single : listWords s = [w]) (numeral : IsNumeral w) : Legible form (.amount f)
  | list {f : Hpl.Multi} {s : Text} (typed : form.entry (.list f) = .text s)
      (nonempty : listWords s ≠ []) (numerals : ∀ w ∈ listWords s, IsNumeral w) :
      Legible form (.list f)

namespace Form

/-! ### One place -/

section

variable {form : Form} {s : Text}

end

section

variable {form : Form}

end

end Form

end Editor

end ClusterPrep
