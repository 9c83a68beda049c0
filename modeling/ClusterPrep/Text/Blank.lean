import ClusterPrep.Text.Basic

set_option autoImplicit false

/-
  Blank characters and the cuts made at them. `strip` removes
  blanks at both ends, `words` are the maximal runs without a blank.
-/
namespace ClusterPrep.Text

/-- A character that separates words: the spaces, tabs, line and paragraph separators of Unicode
    and the four information separators. -/
def isBlank (c : CodePoint) : Bool :=
  let n := c.toNat
  (9 ≤ n && n ≤ 13) || (28 ≤ n && n ≤ 32) || n == 0x85 || n == 0xA0 || n == 0x1680 ||
    (0x2000 ≤ n && n ≤ 0x200A) || n == 0x2028 || n == 0x2029 || n == 0x202F || n == 0x205F ||
    n == 0x3000

/-- The text without the characters at its right end that satisfy `p`. -/
def dropRightWhile (p : CodePoint → Bool) (s : Text) : Text :=
  (s.reverse.dropWhile p).reverse

/-- The text without the characters at both ends that satisfy `p`. -/
def trimWhile (p : CodePoint → Bool) (s : Text) : Text :=
  dropRightWhile p (s.dropWhile p)

/-- The text without the blanks at its ends. -/
def strip (s : Text) : Text := trimWhile isBlank s

/-- The maximal runs of characters that are not blank, in order. -/
def words : Text → List Text
  | [] => []
  | c :: rest =>
    if isBlank c then words rest
    else match rest with
      | [] => [[c]]
      | d :: _ =>
        if isBlank d then [c] :: words rest
        else match words rest with
          | w :: ws => (c :: w) :: ws
          | [] => [[c]]

/-- The pieces between the occurrences of `sep`: always one more than there are occurrences. -/
def pieces (sep : CodePoint) : Text → List Text
  | [] => [[]]
  | c :: rest =>
    if c = sep then [] :: pieces sep rest
    else match pieces sep rest with
      | piece :: pieces => (c :: piece) :: pieces
      | [] => [[c]]

/-- The pieces with `sep` between neighbours. -/
def joinWith (sep : Text) : List Text → Text
  | [] => []
  | [s] => s
  | s :: t :: rest => s ++ sep ++ joinWith sep (t :: rest)

/-- The lines of a text, which a line feed and nothing else separates. -/
def lines (s : Text) : List Text := pieces '\n' s

/-- The text of some lines, with a line feed between neighbours. -/
def unlines (ls : List Text) : Text := joinWith ['\n'] ls

/-- The text of some words, with a space between neighbours. -/
def unwords (ws : List Text) : Text := joinWith [' '] ws

/-- Carriage returns, alone or before a line feed, become line feeds. -/
def unifyNewlines : Text → Text
  | [] => []
  | '\r' :: '\n' :: rest => '\n' :: unifyNewlines rest
  | c :: rest => (if c = '\r' then '\n' else c) :: unifyNewlines rest

theorem pieces_ne_nil (sep : CodePoint) (s : Text) : pieces sep s ≠ [] := by
  cases s with
  | nil => simp [pieces]
  | cons c rest =>
    unfold pieces
    split
    · simp
    · split <;> simp

/-- Joining undoes splitting. -/
theorem joinWith_pieces (sep : CodePoint) (s : Text) : joinWith [sep] (pieces sep s) = s := by
  induction s with
  | nil => rfl
  | cons c rest ih =>
    unfold pieces
    split
    · rename_i h
      cases hs : pieces sep rest with
      | nil => exact absurd hs (pieces_ne_nil sep rest)
      | cons p ps => rw [hs] at ih; simp [joinWith, ih, h]
    · cases hs : pieces sep rest with
      | nil => exact absurd hs (pieces_ne_nil sep rest)
      | cons p ps =>
        rw [hs] at ih
        cases ps with
        | nil => simpa [joinWith] using ih
        | cons q qs => simpa [joinWith] using ih

end ClusterPrep.Text
