import ClusterPrep.Text.Basic

set_option autoImplicit false

/-
  Texts with styles: a style for the whole and styles for stretches of it. Control characters that
  a terminal would act on are left out.
-/
namespace ClusterPrep.Display

/-- A bell, backspace, vertical tab, form feed or carriage return. -/
def isTerminalControl (c : CodePoint) : Bool :=
  c.toNat == 7 || c.toNat == 8 || c.toNat == 11 || c.toNat == 12 || c.toNat == 13

/-- The text without the characters that a terminal would act on. -/
def visible (s : Text) : Text := s.filter fun c => !isTerminalControl c

theorem visible_append (s t : Text) : visible (s ++ t) = visible s ++ visible t :=
  List.filter_append s t

/-- A stretch of a text, from `start` up to `stop`, and its style. -/
structure Span where
  start : Nat
  stop : Nat
  style : String
deriving DecidableEq, Repr

/-- A text with styles; an empty style is none. -/
structure Styled where
  plain : Text := []
  style : String := ""
  spans : List Span := []
deriving DecidableEq, Repr

/-- A text in one style. -/
def Styled.of (s : Text) (style : String) : Styled := ⟨visible s, style, []⟩

/-- The text with another one in a style of its own after it. -/
def Styled.append (t : Styled) (s : Text) (style : String) : Styled :=
  let added := visible s
  let start := t.plain.length
  { t with
    plain := t.plain ++ added
    spans := if style = "" ∨ s.isEmpty then t.spans
      else t.spans ++ [⟨start, start + added.length, style⟩] }

/-- Whether any style is set. -/
def Styled.isStyled (t : Styled) : Bool := t.style ≠ "" || !t.spans.isEmpty

end ClusterPrep.Display
