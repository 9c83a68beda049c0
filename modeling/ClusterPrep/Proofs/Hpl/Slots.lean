import ClusterPrep.Hpl.Reader
import ClusterPrep.Proofs.Hpl.Fields
import ClusterPrep.Proofs.Text.Words

set_option autoImplicit false

/-
  Reading HPL.dat as a table of lines. The reader takes lines from the front, place after place;
  since every place takes as many lines as it has, whatever stands on them, each field is read from
  lines of its own at fixed positions.
-/
namespace ClusterPrep.Hpl

/-! ### The lines of a field -/

/-- The line of a single field, counted from zero. -/
def Single.line : Single → Nat
  | .outFile => 2
  | .outDevice => 3
  | .pmap => 8
  | .threshold => 12
  | .swap => 25
  | .swappingThreshold => 26
  | .l1 => 27
  | .u => 28
  | .equilibration => 29
  | .alignment => 30

/-- The line with the length of a list field. The grids share one. -/
def Multi.countLine : Multi → Nat
  | .ns => 4
  | .nbs => 6
  | .ps => 9
  | .qs => 9
  | .pfacts => 13
  | .nbmins => 15
  | .ndivs => 17
  | .rfacts => 19
  | .bcasts => 21
  | .depths => 23

/-- The line with the values of a list field. -/
def Multi.valuesLine : Multi → Nat
  | .ns => 5
  | .nbs => 7
  | .ps => 10
  | .qs => 11
  | .pfacts => 14
  | .nbmins => 16
  | .ndivs => 18
  | .rfacts => 20
  | .bcasts => 22
  | .depths => 24

/-- The first word of a line, if there is a line. -/
def firstWord (line : Option Text) : Option Text := line.bind fun l => (Text.words l).head?

/-- The value of a single field on a line: nothing if there is no line. -/
def Single.valueOn (f : Single) (line : Option Text) : Attempt Value :=
  match firstWord line with
  | none => return .null
  | some w => if f = .outFile then return .text w else numberValue w

/-- The count on a line: zero if there is no line. -/
def countOn (line : Option Text) : Attempt Nat :=
  match firstWord line with
  | none => return 0
  | some w => countValue w

/-- The values of the first `count` words on a line: none if there is no line. -/
def valuesOn (count : Nat) : Option Text → Attempt (List Value)
  | none => return []
  | some l => ((Text.words l).take count).mapM tokenValue

/-- The values of a list field, from the line with its length and the line with its values. -/
def listOn (countLine valuesLine : Option Text) : Attempt (List Value) := do
  let count ← countOn countLine
  valuesOn count valuesLine

/-- The value of a field, from the lines that are its own. -/
def Field.valueIn (ls : List Text) : Field → Attempt Value
  | .single f => f.valueOn ls[f.line]?
  | .multi f => return .list (← listOn ls[f.countLine]? ls[f.valuesLine]?)

/-- The configuration on some lines, each field read on its own. -/
def Config.ofLines (ls : List Text) : Attempt Config :=
  Field.all.foldlM (fun c f => return c.set (← f.valueIn ls) f) {}

theorem Field.valueIn_multi_eq_ok {ls : List Text} {f : Multi} {v : Value} :
    (Field.multi f).valueIn ls = .ok v ↔
      ∃ vs, listOn ls[f.countLine]? ls[f.valuesLine]? = .ok vs ∧ v = .list vs := by
  rw [Field.valueIn]
  cases listOn ls[f.countLine]? ls[f.valuesLine]? with
  | error e => simp [bind, Except.bind]
  | ok vs =>
      simp only [bind, Except.bind, pure, Except.pure, Except.ok.injEq, exists_eq_left']
      exact eq_comm

/-- A configuration is the one on some lines if each of its fields is on its own lines. -/
theorem Config.ofLines_eq_ok_iff {ls : List Text} {c : Config} :
    Config.ofLines ls = .ok c ↔
      (∀ f : Single, f.valueOn ls[f.line]? = .ok (c.single f)) ∧
        ∀ f : Multi, listOn ls[f.countLine]? ls[f.valuesLine]? = .ok (c.multi f) := by
  have fits (f : Field) (v : Value) (read : f.valueIn ls = .ok v) : f.fitted v = v := by
    cases f with
    | single f => rfl
    | multi f =>
        obtain ⟨vs, -, rfl⟩ := Field.valueIn_multi_eq_ok.mp read
        rfl
  rw [Config.ofLines, Config.foldlM_set_all_iff fits]
  constructor
  · intro each
    refine ⟨fun f => each (.single f), fun f => ?_⟩
    obtain ⟨vs, read, held⟩ := Field.valueIn_multi_eq_ok.mp (each (.multi f))
    rw [read]
    exact congrArg Except.ok (Value.list.inj held).symm
  · rintro ⟨single, multi⟩ f
    cases f with
    | single f => exact single f
    | multi f => exact Field.valueIn_multi_eq_ok.mpr ⟨_, multi f, rfl⟩

/-! ### The reader at a position -/

/-- The fields of a place. -/
def Entry.fields : Entry → List Field
  | .single f _ => [.single f]
  | .multi f _ _ => [.multi f]
  | .grids _ _ _ => [.multi .ps, .multi .qs]

/-- The number of lines of a place. -/
def Entry.width : Entry → Nat
  | .single .. => 1
  | .multi .. => 2
  | .grids .. => 3

/-- The lines of the fields of a place are those from a position on. -/
def Entry.StandsAt (i : Nat) : Entry → Prop
  | .single f _ => f.line = i
  | .multi f _ _ => f.countLine = i ∧ f.valuesLine = i + 1
  | .grids _ _ _ =>
    Multi.ps.countLine = i ∧ Multi.ps.valuesLine = i + 1 ∧
      Multi.qs.countLine = i ∧ Multi.qs.valuesLine = i + 2

/-- Places that stand one after the other from a position on. -/
def StandFrom (i : Nat) : List Entry → Prop
  | [] => True
  | e :: es => e.StandsAt i ∧ StandFrom (i + e.width) es

theorem standFrom_schema : StandFrom header.length schema := by
  simp [StandFrom, schema, header, Entry.StandsAt, Entry.width, Single.line, Multi.countLine,
    Multi.valuesLine]

/-- The places of the file are all the fields. -/
theorem flatMap_fields_schema : schema.flatMap Entry.fields = Field.all := rfl

section

variable (ls : List Text)

theorem nextWord_eq : nextWord ls = (firstWord ls.head?, ls.tail) := by
  cases ls <;> rfl

theorem nextCount_eq : nextCount ls = do return (← countOn ls.head?, ls.tail) := by
  rw [nextCount, nextWord_eq, countOn]
  cases firstWord ls.head? <;> rfl

theorem nextValues_eq (count : Nat) :
    nextValues count ls = do return (← valuesOn count ls.head?, ls.tail) := by
  cases ls <;> rfl

theorem nextSingle_eq (f : Single) :
    nextSingle f ls = do return (← f.valueOn ls.head?, ls.tail) := by
  rw [nextSingle, nextWord_eq, Single.valueOn]
  cases firstWord ls.head? with
  | none => rfl
  | some w =>
      dsimp only
      split <;> rfl

/-- A place that is read from a position on fills its fields from their own lines, and leaves the
    lines after them. -/
theorem readEntry_drop {e : Entry} {i : Nat} (stands : e.StandsAt i) (c : Config) :
    readEntry c (ls.drop i) e = do
      let c ← e.fields.foldlM (fun c f => return c.set (← f.valueIn ls) f) c
      return (c, ls.drop (i + e.width)) := by
  cases e with
  | single f label =>
      cases stands
      simp only [readEntry, nextSingle_eq, List.head?_drop, List.tail_drop, Entry.fields,
        List.foldlM_cons, List.foldlM_nil, Field.valueIn, Entry.width, bind_assoc, pure_bind]
      rfl
  | multi f countLabel valuesLabel =>
      obtain ⟨count, values⟩ := stands
      simp only [readEntry, nextCount_eq, nextValues_eq, List.head?_drop, List.tail_drop,
        Entry.fields, List.foldlM_cons, List.foldlM_nil, Field.valueIn, listOn, count, values,
        Entry.width, bind_assoc, pure_bind]
      rfl
  | grids countLabel psLabel qsLabel =>
      obtain ⟨count, ps, again, qs⟩ := stands
      simp only [readEntry, nextCount_eq, nextValues_eq, List.head?_drop, List.tail_drop,
        Entry.fields, List.foldlM_cons, List.foldlM_nil, Field.valueIn, listOn, count, ps, again,
        qs, Entry.width, bind_assoc, pure_bind]
      cases countOn ls[i]? with
      | error e => rfl
      | ok n => rfl

/-- Places that are read one after the other fill their fields, each from its own lines. The
    induction carries the position from which the rest of the places stand. -/
theorem readEntries_drop {es : List Entry} {i : Nat} (stand : StandFrom i es) (c : Config) :
    readEntries es c (ls.drop i) =
      (es.flatMap Entry.fields).foldlM (fun c f => return c.set (← f.valueIn ls) f) c := by
  induction es generalizing i c with
  | nil => rfl
  | cons e es ih =>
      obtain ⟨first, rest⟩ := stand
      rw [readEntries, readEntry_drop ls first, List.flatMap_cons, List.foldlM_append]
      simp only [bind_assoc, pure_bind, ih rest]

end

/-- **The reader reads fixed lines.** -/
theorem read_eq (s : Text) :
    read s = if (usableLines s).length < 3 then .ok none
      else (Config.ofLines (usableLines s)).map some := by
  rw [read, readEntries_drop _ standFrom_schema, flatMap_fields_schema]
  split
  · rfl
  · rw [← Config.ofLines]
    cases Config.ofLines (usableLines s) <;> rfl

/-- What was read of a text: nothing if it has fewer than three lines, and otherwise every field
    from its own lines. -/
theorem read_eq_ok_iff {s : Text} {r : Option Config} :
    read s = .ok r ↔
      ((usableLines s).length < 3 ∧ r = none) ∨
        (3 ≤ (usableLines s).length ∧
          ∃ c, r = some c ∧ Config.ofLines (usableLines s) = .ok c) := by
  rw [read_eq]
  split
  · rename_i few
    simp only [Except.ok.injEq, few, true_and, Nat.not_le.mpr few, false_and, or_false]
    exact eq_comm
  · rename_i many
    simp only [many, false_and, false_or, Nat.le_of_not_lt many, true_and]
    cases Config.ofLines (usableLines s) with
    | error e => simp [Except.map]
    | ok c =>
        simp only [Except.map, Except.ok.injEq]
        constructor
        · rintro rfl
          exact ⟨c, rfl, rfl⟩
        · rintro ⟨d, rfl, rfl⟩
          rfl

theorem ofLines_of_read {s : Text} {c : Config} (found : read s = .ok (some c)) :
    Config.ofLines (usableLines s) = .ok c := by
  rcases read_eq_ok_iff.mp found with ⟨-, none⟩ | ⟨-, d, same, held⟩
  · cases none
  · cases same
    exact held

/-! ### Texts with the same words in the slots -/

/-- A single field stands on the same word in two texts, or on no line of either. -/
def Single.Agrees (ls ms : List Text) (f : Single) : Prop :=
  firstWord ls[f.line]? = firstWord ms[f.line]?

/-- A list field has the same word for its count in two texts, and the same words up to that count
    on the line of its values. A line that is missing in one text is missing in the other. -/
def Multi.Agrees (ls ms : List Text) (f : Multi) : Prop :=
  firstWord ls[f.countLine]? = firstWord ms[f.countLine]? ∧
    ∀ n, countOn ls[f.countLine]? = .ok n →
      ls[f.valuesLine]?.map (fun l => (Text.words l).take n) =
        ms[f.valuesLine]?.map fun l => (Text.words l).take n

section

variable {ls ms : List Text}

theorem Single.valueOn_congr {f : Single} (agrees : f.Agrees ls ms) :
    f.valueOn ls[f.line]? = f.valueOn ms[f.line]? := by
  rw [Single.valueOn, Single.valueOn, agrees]

theorem valuesOn_congr {n : Nat} {first second : Option Text}
    (same : first.map (fun l => (Text.words l).take n) =
      second.map fun l => (Text.words l).take n) :
    valuesOn n first = valuesOn n second := by
  cases first with
  | none =>
      cases second with
      | none => rfl
      | some m => cases same
  | some l =>
      cases second with
      | none => cases same
      | some m =>
          have words : (Text.words l).take n = (Text.words m).take n := Option.some.inj same
          rw [valuesOn, valuesOn, words]

theorem listOn_congr {f : Multi} (agrees : f.Agrees ls ms) :
    listOn ls[f.countLine]? ls[f.valuesLine]? = listOn ms[f.countLine]? ms[f.valuesLine]? := by
  obtain ⟨count, values⟩ := agrees
  have counts : countOn ls[f.countLine]? = countOn ms[f.countLine]? := by
    rw [countOn, countOn, count]
  rw [listOn, listOn, ← counts]
  cases counted : countOn ls[f.countLine]? with
  | error e => rfl
  | ok n => exact valuesOn_congr (values n counted)

/-- Lines that agree for all fields hold the same configuration, or fail alike. -/
theorem Config.ofLines_congr (single : ∀ f : Single, f.Agrees ls ms)
    (multi : ∀ f : Multi, f.Agrees ls ms) : Config.ofLines ls = Config.ofLines ms := by
  have same (f : Field) : f.valueIn ls = f.valueIn ms := by
    cases f with
    | single f => exact Single.valueOn_congr (single f)
    | multi f => rw [Field.valueIn, Field.valueIn, listOn_congr (multi f)]
  simp only [Config.ofLines, same]

theorem valueOn_of_missing {f : Single} {v : Value} (missing : ls.length ≤ f.line)
    (read : f.valueOn ls[f.line]? = .ok v) : v = .null := by
  rw [List.getElem?_eq_none missing] at read
  exact (Except.ok.inj read).symm

theorem listOn_of_missing {f : Multi} {vs : List Value} (missing : ls.length ≤ f.valuesLine)
    (read : listOn ls[f.countLine]? ls[f.valuesLine]? = .ok vs) : vs = [] := by
  rw [List.getElem?_eq_none missing, listOn] at read
  cases counted : countOn ls[f.countLine]? with
  | error e =>
      rw [counted] at read
      cases read
  | ok n =>
      rw [counted] at read
      exact (Except.ok.inj read).symm

end

theorem firstWord_usableLines_eq_none {s : Text} {i : Nat} :
    firstWord (usableLines s)[i]? = none ↔ (usableLines s).length ≤ i := by
  rw [firstWord, ← List.getElem?_eq_none_iff]
  cases found : (usableLines s)[i]? with
  | none => simp
  | some l =>
      have member := List.mem_of_getElem? found
      obtain ⟨inside, nonempty⟩ := List.mem_filter.mp member
      obtain ⟨m, -, rfl⟩ := List.mem_map.mp inside
      have some : Text.words m ≠ [] := Text.words_ne_nil (by simpa using nonempty)
      simp [some]

/-- Texts that agree on the lines of all fields are read alike. The line of the output file tells
    whether there are three lines. -/
theorem read_congr {s t : Text}
    (single : ∀ f : Single, f.Agrees (usableLines s) (usableLines t))
    (multi : ∀ f : Multi, f.Agrees (usableLines s) (usableLines t)) : read s = read t := by
  have few : (usableLines s).length < 3 ↔ (usableLines t).length < 3 := by
    have third := single .outFile
    rw [Nat.lt_succ_iff, Nat.lt_succ_iff, ← firstWord_usableLines_eq_none,
      ← firstWord_usableLines_eq_none]
    exact iff_of_eq (congrArg (· = none) third)
  rw [read_eq, read_eq, Config.ofLines_congr single multi]
  simp only [few]

/-- **Every field has lines of its own.** Of two texts that are read: nothing is read of one with
    fewer than three lines; else every field is the value on its own lines, missing or empty if
    these are missing. Fields whose own lines agree are equal whatever stands elsewhere, and texts
    that agree on the lines of all fields are read alike. -/
theorem read_ownLines {s t : Text} {r q : Option Config} (first : read s = .ok r)
    (second : read t = .ok q) :
    (r = none ↔ (usableLines s).length < 3) ∧
    (∀ c, r = some c →
      (∀ f : Single, f.valueOn (usableLines s)[f.line]? = .ok (c.single f) ∧
        ((usableLines s).length ≤ f.line → c.single f = .null)) ∧
      (∀ f : Multi,
        listOn (usableLines s)[f.countLine]? (usableLines s)[f.valuesLine]? = .ok (c.multi f) ∧
        ((usableLines s).length ≤ f.valuesLine → c.multi f = []))) ∧
    (∀ c d, r = some c → q = some d →
      (∀ f : Single, f.Agrees (usableLines s) (usableLines t) → c.single f = d.single f) ∧
      (∀ f : Multi, f.Agrees (usableLines s) (usableLines t) → c.multi f = d.multi f)) ∧
    ((∀ f : Single, f.Agrees (usableLines s) (usableLines t)) →
      (∀ f : Multi, f.Agrees (usableLines s) (usableLines t)) → r = q) := by
  have fields {u : Text} {c : Config} (read : read u = .ok (some c)) :
      (∀ f : Single, f.valueOn (usableLines u)[f.line]? = .ok (c.single f)) ∧
        ∀ f : Multi,
          listOn (usableLines u)[f.countLine]? (usableLines u)[f.valuesLine]? =
            .ok (c.multi f) :=
    Config.ofLines_eq_ok_iff.mp (ofLines_of_read read)
  refine ⟨?_, ?_, ?_, ?_⟩
  · rcases read_eq_ok_iff.mp first with ⟨few, rfl⟩ | ⟨many, c, rfl, -⟩
    · exact ⟨fun _ => few, fun _ => rfl⟩
    · refine ⟨fun absent => ?_, fun few => ?_⟩
      · cases absent
      · omega
  · rintro c rfl
    obtain ⟨single, multi⟩ := fields first
    exact ⟨fun f => ⟨single f, fun missing => valueOn_of_missing missing (single f)⟩,
      fun f => ⟨multi f, fun missing => listOn_of_missing missing (multi f)⟩⟩
  · rintro c d rfl rfl
    obtain ⟨single, multi⟩ := fields first
    obtain ⟨single', multi'⟩ := fields second
    constructor
    · intro f agrees
      have same := single f
      rw [Single.valueOn_congr agrees, single' f] at same
      exact (Except.ok.inj same).symm
    · intro f agrees
      have same := multi f
      rw [listOn_congr agrees, multi' f] at same
      exact (Except.ok.inj same).symm
  · intro single multi
    rw [read_congr single multi, second] at first
    exact (Except.ok.inj first).symm

/-- A text that ends after the problem sizes, with a name among the numbers and a device that is
    none. -/
def truncated : Text := "h1\nh2\nmyout.txt\nsix\n2 sizes\n29 big 34 Ns"

/-- The same values between other labels and blank lines. -/
def relabelled : Text := "\n a\n\n b\nmyout.txt name\n  six device out\n2\n29 big 128"

/-- What both hold: a name, a device that is no number, two sizes of which one is a name, and
    nothing in all other fields. -/
structure HoldsBeginning (c : Config) : Prop where
  outFile : c.outFile = .text "myout.txt"
  outDevice : c.outDevice = .real .nan
  ns : c.ns = [.int 29, .text "big"]
  single : ∀ f : Single, f ≠ .outFile → f ≠ .outDevice → c.single f = .null
  multi : ∀ f : Multi, f ≠ .ns → c.multi f = []

theorem read_ownLines_truncated :
    ∃ c, read truncated = .ok (some c) ∧ read relabelled = .ok (some c) ∧ HoldsBeginning c := by
  have first : ((read truncated).toOption.bind id).isSome = true := by decide +kernel
  have second : (read relabelled).toOption.isSome = true := by decide +kernel
  obtain ⟨c, first⟩ := Option.isSome_iff_exists.mp first
  obtain ⟨r, first, rfl⟩ := Option.bind_eq_some_iff.mp first
  obtain ⟨q, second⟩ := Option.isSome_iff_exists.mp second
  have first := Attempt.ok_of_toOption first
  have second := Attempt.ok_of_toOption second
  have lines : usableLines truncated =
      ["h1", "h2", "myout.txt", "six", "2 sizes", "29 big 34 Ns"].map Text.ofString := by
    decide +kernel
  have lines' : usableLines relabelled =
      ["a", "b", "myout.txt name", "six device out", "2", "29 big 128"].map Text.ofString := by
    decide +kernel
  obtain ⟨-, found, -, alike⟩ := read_ownLines first second
  obtain ⟨single, multi⟩ := found c rfl
  rw [lines] at single multi
  rw [lines, lines'] at alike
  have same : some c = q := by
    refine alike (fun f => ?_) fun f => ?_
    · unfold Single.Agrees
      cases f <;> decide +kernel
    · cases f with
      | ns =>
          have two : countOn (some (Text.ofString "2 sizes")) = .ok 2 :=
            Attempt.ok_of_toOption (by decide +kernel)
          refine ⟨by decide +kernel, fun n counted => ?_⟩
          cases two.symm.trans counted
          decide +kernel
      | _ =>
          -- Neither text has a line for the values.
          refine ⟨by decide +kernel, fun n _ => ?_⟩
          rw [List.getElem?_eq_none (by decide), List.getElem?_eq_none (by decide)]
  subst same
  refine ⟨c, first, second, ?_⟩
  constructor
  · have read : Single.outFile.valueOn (some "myout.txt") = .ok (.text "myout.txt") := rfl
    exact Except.ok.inj ((single .outFile).1.symm.trans read)
  · have read : Single.outDevice.valueOn (some "six") = .ok (.real .nan) := rfl
    exact Except.ok.inj ((single .outDevice).1.symm.trans read)
  · have read : listOn (some "2 sizes") (some "29 big 34 Ns") = .ok [.int 29, .text "big"] :=
      rfl
    exact Except.ok.inj ((multi .ns).1.symm.trans read)
  · intro f named device
    refine (single f).2 ?_
    cases f
    case outFile => exact absurd rfl named
    case outDevice => exact absurd rfl device
    all_goals decide
  · intro f sizes
    refine (multi f).2 ?_
    cases f
    case ns => exact absurd rfl sizes
    all_goals decide

end ClusterPrep.Hpl
