import ClusterPrep.Preset.Store
import ClusterPrep.Proofs.Preset.Name
import ClusterPrep.Proofs.Text.Ascii

set_option autoImplicit false

/-
  Which texts stand for names, and the files of these names. A name is plain, so that its file is in
  the directory that it is sought in and nowhere else, and the file without its ending is called by
  the name again, also where there are points in the name.
-/
namespace ClusterPrep.Preset

/-! ### Plain texts -/

/-- A letter or a digit of ASCII, by its number. -/
def IsLetterOrDigit (c : CodePoint) : Prop :=
  (48 ≤ c.toNat ∧ c.toNat ≤ 57) ∨ (65 ≤ c.toNat ∧ c.toNat ≤ 90) ∨ (97 ≤ c.toNat ∧ c.toNat ≤ 122)

/-- The characters of names other than letters and digits. -/
def nameSigns : List CodePoint := [.char '_', .char ' ', .char '.', .char '-']

/-- The texts that are names. -/
structure IsPlainName (t : Text) : Prop where
  length : 1 ≤ t.length ∧ t.length ≤ 64
  begins : ∃ c rest, t = c :: rest ∧ IsLetterOrDigit c
  plain : ∀ c ∈ t, IsLetterOrDigit c ∨ c ∈ nameSigns
  apart : ¬ (".." : Text) <:+: t

theorem isNameStart_iff {c : CodePoint} : isNameStart c = true ↔ IsLetterOrDigit c := by
  cases c with
  | half n =>
      have beyond : ¬ IsLetterOrDigit (.half n) := by
        simp only [IsLetterOrDigit, CodePoint.toNat]
        omega
      exact iff_of_false Bool.false_ne_true beyond
  | char c =>
      have upper : c.isUpper = decide (65 ≤ c.val ∧ c.val ≤ 90) := rfl
      have lower : c.isLower = (decide (97 ≤ c.val) && decide (c.val ≤ 122)) := rfl
      have digit : c.isDigit = (decide (48 ≤ c.val) && decide (c.val ≤ 57)) := rfl
      have start : isNameStart (.char c) = ((c.isUpper || c.isLower) || c.isDigit) := rfl
      rw [start, upper, lower, digit]
      simp only [Bool.or_eq_true, Bool.and_eq_true, decide_eq_true_eq, UInt32.le_iff_toNat_le]
      exact or_comm

theorem isNameChar_iff {c : CodePoint} :
    isNameChar c = true ↔ IsLetterOrDigit c ∨ c ∈ nameSigns := by
  rw [← isNameStart_iff, isNameStart]
  simp only [isNameChar, nameSigns, Bool.or_eq_true, beq_iff_eq, List.mem_cons, List.not_mem_nil,
    or_false, or_assoc]

theorem isName_iff {t : Text} : isName t = true ↔
    (∃ c rest, t = c :: rest ∧ IsLetterOrDigit c) ∧
      (∀ c ∈ t, IsLetterOrDigit c ∨ c ∈ nameSigns) ∧ ¬ (".." : Text) <:+: t := by
  cases t with
  | nil => simp [isName]
  | cons c rest =>
      have first : (∃ d tail, c :: rest = d :: tail ∧ IsLetterOrDigit d) ↔ IsLetterOrDigit c := by
        simp
      rw [isName, Bool.and_eq_true, Bool.and_eq_true, isNameStart_iff, List.all_eq_true,
        Bool.not_eq_true', ← Bool.not_eq_true, Text.hasPiece_iff, first, List.forall_mem_cons]
      simp only [isNameChar_iff]
      -- The first character is checked once, for what a name may begin with.
      constructor
      · rintro ⟨⟨front, others⟩, apart⟩
        exact ⟨front, ⟨.inl front, others⟩, apart⟩
      · rintro ⟨front, ⟨-, others⟩, apart⟩
        exact ⟨⟨front, others⟩, apart⟩

/-- **The texts that stand for names, and for which.** -/
theorem checkName_eq_ok_iff {s n : Text} :
    checkName s = .ok n ↔ n = Text.strip s ∧ IsPlainName (Text.strip s) := by
  constructor
  · intro named
    have same := eq_strip_of_checkName named
    have nonempty := ne_nil_of_checkName named
    rw [same] at nonempty
    refine ⟨same, ?_⟩
    rw [checkName, if_neg (by rwa [List.isEmpty_iff])] at named
    split at named
    · cases named
    · rename_i short
      split at named
      · rename_i good
        obtain ⟨begins, plain, apart⟩ := isName_iff.mp good
        exact ⟨⟨List.length_pos_iff.mpr nonempty, Nat.le_of_not_lt short⟩, begins, plain, apart⟩
      · cases named
  · rintro ⟨rfl, ⟨⟨least, most⟩, begins, plain, apart⟩⟩
    have nonempty : ¬ (Text.strip s).isEmpty = true := by
      rw [List.isEmpty_iff]
      exact List.length_pos_iff.mp least
    have short : ¬ maxNameLength < (Text.strip s).length := Nat.not_lt.mpr most
    have good := isName_iff.mpr ⟨begins, plain, apart⟩
    rw [checkName, if_neg nonempty, if_neg short, if_pos good]
    rfl

/-! ### Files -/

/-- The name of a file without its ending: what is before the last point, unless the name begins or
    ends with that point. -/
def stem (file : Text) : Text :=
  match file.reverse.dropWhile (· ≠ .char '.') with
  | _ :: front => if front = [] ∨ file.getLast? = some (.char '.') then file else front.reverse
  | [] => file

/-- The text leads to a file of that name in whatever directory it is sought, and to no other
    place. -/
structure IsFileName (file : Text) : Prop where
  unslashed : .char '/' ∉ file
  here : file ≠ "."
  above : file ≠ ".."
  leads : ∀ (tree : Files.Tree) (directory : Files.Place),
    tree.walk directory (Files.Path.ofText file).names = .ok (directory.child file)

theorem stem_append_ending (front : Text) :
    stem (front ++ ending) = if front = [] then ending else front := by
  have last : (front ++ ending).getLast? = some (.char 'n') := by
    rw [List.getLast?_append_of_ne_nil _ (by decide)]
    rfl
  have cut : (front ++ ending).reverse.dropWhile (· ≠ .char '.') =
      .char '.' :: front.reverse := by
    rw [List.reverse_append]
    rfl
  rw [stem, cut, last]
  by_cases empty : front = []
  · subst empty
    rfl
  · simp [empty]

/-- Files are listed by what they are called without their endings. -/
theorem nameOf?_eq_stem (file : Text) :
    nameOf? file = if ending <:+ file then some (stem file) else none := by
  by_cases ends : ending <:+ file
  · obtain ⟨front, rfl⟩ := ends
    rw [if_pos (List.suffix_append front ending), stem_append_ending]
    by_cases empty : front = []
    · subst empty
      rfl
    · rw [if_neg empty]
      exact nameOf?_fileOf empty
  · rw [if_neg ends, nameOf?, if_neg (by rwa [List.isSuffixOf_iff_suffix])]

namespace IsPlainName

variable {n : Text} (named : IsPlainName n)
include named

theorem ne_nil : n ≠ [] := List.length_pos_iff.mp named.length.1

theorem isAscii_fileOf : Text.IsAscii (fileOf n) := by
  have signs : ∀ c ∈ nameSigns, Text.IsVisible c := by decide
  have ended : Text.IsAscii ending := by decide
  refine Text.IsAscii.append (fun c member => .inr ?_) ended
  rcases named.plain c member with letter | sign
  · simp only [IsLetterOrDigit] at letter
    exact ⟨by omega, by omega⟩
  · exact signs c sign

theorem slash_not_mem : .char '/' ∉ fileOf n := by
  intro member
  rcases List.mem_append.mp member with inside | ended
  · have sort := named.plain _ inside
    revert sort
    simp only [IsLetterOrDigit, nameSigns]
    decide
  · revert ended
    decide

/-- The file has more characters than its ending. -/
theorem length_fileOf : 6 ≤ (fileOf n).length ∧ (fileOf n).length ≤ 69 := by
  have bounds := named.length
  have five : ending.length = 5 := rfl
  rw [fileOf, List.length_append, five]
  omega

theorem fileOf_ne {t : Text} (short : t.length < 6) : fileOf n ≠ t := by
  rintro rfl
  exact absurd named.length_fileOf.1 (Nat.not_le.mpr short)

theorem names_fileOf : (Files.Path.ofText (fileOf n)).names = [fileOf n] := by
  have filled : fileOf n ≠ [] := named.fileOf_ne (by decide)
  have proper : fileOf n ≠ "." := named.fileOf_ne (by decide)
  simp only [Files.Path.ofText, Text.pieces_of_not_mem named.slash_not_mem]
  exact List.filter_cons_of_pos (decide_eq_true ⟨filled, proper⟩)

theorem isFileName : IsFileName (fileOf n) where
  unslashed := named.slash_not_mem
  here := named.fileOf_ne (by decide)
  above := named.fileOf_ne (by decide)
  leads := by
    intro tree directory
    have bytes : ¬ Files.Tree.maxNameBytes < (Text.encode (fileOf n)).length := by
      have few := named.length_fileOf.2
      rw [named.isAscii_fileOf.length_encode]
      exact Nat.not_lt.mpr (Nat.le_trans few (by decide))
    have below : fileOf n ≠ ".." := named.fileOf_ne (by decide)
    rw [named.names_fileOf, Files.Tree.walk, if_neg bytes, if_pos rfl, if_neg below]
    rfl

end IsPlainName

/-- Places in one directory are told apart by their names. -/
theorem child_inj {directory : Files.Place} {a b : Text} :
    directory.child a = directory.child b ↔ a = b := by
  simp [Files.Place.child]

/-- The place of the file of the name that a text stands for. -/
def Addresses (tree : Files.Tree) (directory : Files.Place) (s : Text) (place : Files.Place) :
    Prop :=
  ∃ file, pathOf s = .ok file ∧
    tree.walk directory (Files.Path.ofText file).names = .ok place

theorem pathOf_of_checkName {s n : Text} (named : checkName s = .ok n) :
    pathOf s = .ok (fileOf n) := by
  rw [pathOf, named]
  rfl

theorem addresses_iff {tree : Files.Tree} {directory place : Files.Place} {s n : Text}
    (named : checkName s = .ok n) :
    Addresses tree directory s place ↔ place = directory.child (fileOf n) := by
  obtain ⟨same, plain⟩ := checkName_eq_ok_iff.mp named
  rw [← same] at plain
  have leads := plain.isFileName.leads tree directory
  constructor
  · rintro ⟨file, path, walked⟩
    rw [pathOf_of_checkName named] at path
    rw [← Except.ok.inj path, leads] at walked
    exact (Except.ok.inj walked).symm
  · rintro rfl
    exact ⟨fileOf n, pathOf_of_checkName named, leads⟩

/-- **Names and their files.** A text stands for a name exactly if it is plain but for the blanks at
    its ends, and the name is the text without these. Any other text is a bad value. The file of a
    name is in the directory of presets itself and is called by the name, so that two texts have the
    same file exactly if they stand for the same name; and a name stands for itself. -/
theorem checkName_safe (s : Text) :
    (∀ n, checkName s = .ok n ↔ n = Text.strip s ∧ IsPlainName (Text.strip s)) ∧
    (¬ IsPlainName (Text.strip s) → ∃ e, checkName s = .error e ∧ e.kind = .badValue) ∧
    ∀ n, checkName s = .ok n →
      checkName n = .ok n ∧ pathOf s = .ok (n ++ ".json") ∧ IsFileName (n ++ ".json") ∧
      stem (n ++ ".json") = n ∧ nameOf? (n ++ ".json") = some n ∧
      ∀ t m, checkName t = .ok m → ∀ tree directory place other,
        Addresses tree directory s place → Addresses tree directory t other →
          (place = other ↔ Text.strip s = Text.strip t) := by
  refine ⟨fun n => checkName_eq_ok_iff, fun foreign => ?_, fun n named => ?_⟩
  · cases refused : checkName s with
    | ok n => exact absurd (checkName_eq_ok_iff.mp refused).2 foreign
    | error e => exact ⟨e, rfl, kind_of_checkName refused⟩
  · obtain ⟨same, plain⟩ := checkName_eq_ok_iff.mp named
    rw [← same] at plain
    have called : stem (fileOf n) = n := by
      rw [fileOf, stem_append_ending, if_neg plain.ne_nil]
    refine ⟨checkName_of_checkName named, pathOf_of_checkName named, plain.isFileName, called,
      nameOf?_fileOf plain.ne_nil, ?_⟩
    intro t m named' tree directory place other leads leads'
    rw [(addresses_iff named).mp leads, (addresses_iff named').mp leads', child_inj,
      fileOf_injective.eq_iff, same, eq_strip_of_checkName named']

/-- A name with points and spaces in it, from a text with a tab and a line feed at its ends, and one
    from a text without them; a name with two points in a row is none. -/
theorem checkName_safe_pointed :
    (checkName "\tNode-16 v1.2.\n" = .ok "Node-16 v1.2." ∧
      stem ("Node-16 v1.2." ++ ".json" : Text) = "Node-16 v1.2." ∧
      ∀ tree directory place other, Addresses tree directory "\tNode-16 v1.2.\n" place →
        Addresses tree directory "Node-16 v1.2" other → place ≠ other) ∧
    ∃ e, checkName "a..b" = .error e ∧ e.kind = .badValue := by
  have named : checkName "\tNode-16 v1.2.\n" = .ok "Node-16 v1.2." := by decide +kernel
  have named' : checkName "Node-16 v1.2" = .ok "Node-16 v1.2" := by decide +kernel
  obtain ⟨-, -, files⟩ := checkName_safe "\tNode-16 v1.2.\n"
  obtain ⟨-, -, -, called, -, apart⟩ := files _ named
  refine ⟨⟨named, called, fun tree directory place other leads leads' same => ?_⟩, ?_⟩
  · have equal := (apart _ _ named' tree directory place other leads leads').mp same
    revert equal
    decide +kernel
  · refine (checkName_safe "a..b").2.1 fun plain => ?_
    have dots : (".." : Text) <:+: Text.strip "a..b" := by decide +kernel
    exact plain.apart dots

end ClusterPrep.Preset
