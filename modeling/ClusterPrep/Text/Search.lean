import ClusterPrep.Text.Blank

set_option autoImplicit false

/-
  Finding and replacing pieces of a text.
-/
namespace ClusterPrep.Text

/-- The text before the first `sep` and, if there is one, the text after it. -/
def cut (sep : CodePoint) : Text → Text × Option Text
  | [] => ([], none)
  | c :: rest =>
    if c = sep then ([], some rest)
    else
      let r := cut sep rest
      (c :: r.1, r.2)

/-- In `replaceFrom old new k s`, `new` replaces every occurrence of `old` in what follows the
    first `k` characters of `s`, which are dropped. -/
def replaceFrom (old new : Text) : Nat → Text → Text
  | _, [] => []
  | 0, c :: rest =>
    if old.isPrefixOf (c :: rest) then new ++ replaceFrom old new (old.length - 1) rest
    else c :: replaceFrom old new 0 rest
  | k + 1, _ :: rest => replaceFrom old new k rest

/-- Every occurrence of the non-empty `old` replaced by `new`, from the left and without overlap. -/
def replaceAll (old new : Text) (s : Text) : Text := replaceFrom old new 0 s

/-- Whether `piece` occurs in the text. -/
def hasPiece (piece : Text) : Text → Bool
  | [] => piece.isEmpty
  | c :: rest => piece.isPrefixOf (c :: rest) || hasPiece piece rest

theorem hasPiece_iff {piece s : Text} : hasPiece piece s = true ↔ piece <:+: s := by
  induction s with
  | nil => simp [hasPiece]
  | cons c rest ih =>
    rw [hasPiece, Bool.or_eq_true, ih, List.isPrefixOf_iff_prefix, List.infix_cons_iff]

/-- The text with blanks added at its right end up to the width `w`. -/
def padRight (w : Nat) (s : Text) : Text := s ++ copies (w - s.length) ' '

/-- The text with blanks added at its left end up to the width `w`. -/
def padLeft (w : Nat) (s : Text) : Text := copies (w - s.length) ' ' ++ s

theorem cut_append (sep : CodePoint) (s t : Text) (h : sep ∉ s) :
    cut sep (s ++ sep :: t) = (s, some t) := by
  induction s with
  | nil => simp [cut]
  | cons c rest ih =>
    have hc : c ≠ sep := fun e => h (by simp [e])
    have hr : sep ∉ rest := fun m => h (List.mem_cons_of_mem _ m)
    simp [cut, hc, ih hr]

end ClusterPrep.Text
