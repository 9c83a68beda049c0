import ClusterPrep.Text.Basic

set_option autoImplicit false

/-
  Markup: text in which square brackets hold styles. A text that is shown as it is has a backslash
  before each bracket that would be read as a style.
-/
namespace ClusterPrep.Display

/-- Whether a style can begin with a character. -/
def isStyleStart (c : CodePoint) : Bool := c.isLower || c == '#' || c == '/' || c == '@'

/-- Whether a bracket closes before another one opens. -/
def closes : Text → Bool
  | [] => false
  | c :: rest => c == ']' || (c != '[' && closes rest)

/-- Whether what follows an opening bracket makes it a style. -/
def isStyle : Text → Bool
  | [] => false
  | c :: rest => isStyleStart c && closes rest

/-- The text with a backslash before every style. The `slashes` backslashes just before the text are
    doubled if they stand before a style. -/
def escapeStyles (slashes : Nat) : Text → Text
  | [] => []
  | c :: rest =>
    if c = '\\' then c :: escapeStyles (slashes + 1) rest
    else if c = '[' ∧ isStyle rest then
      Text.copies (slashes + 1) '\\' ++ c :: escapeStyles 0 rest
    else c :: escapeStyles 0 rest

/-- A text without opening brackets has no styles. -/
theorem escapeStyles_of_not_mem (slashes : Nat) (s : Text) (h : .char '[' ∉ s) :
    escapeStyles slashes s = s := by
  induction s generalizing slashes with
  | nil => rfl
  | cons c rest ih =>
    have hc : c ≠ '[' := fun e => h (by simp [e])
    have hr : .char '[' ∉ rest := fun m => h (List.mem_cons_of_mem _ m)
    by_cases hs : c = '\\' <;> simp [escapeStyles, hs, hc, ih _ hr]

/-- Whether a text ends in a single backslash. -/
def endsInOneSlash (s : Text) : Bool :=
  (['\\'] : Text).isSuffixOf s && !(['\\', '\\'] : Text).isSuffixOf s

/-- The markup that shows a text as it is. -/
def escapeMarkup (s : Text) : Text :=
  let escaped := escapeStyles 0 s
  if endsInOneSlash escaped then escaped ++ "\\" else escaped

end ClusterPrep.Display
