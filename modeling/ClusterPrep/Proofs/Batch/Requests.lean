import ClusterPrep.Batch.Script
import ClusterPrep.Proofs.Text.Lines

set_option autoImplicit false

/-
  How the requests of a script add up. An item writes some of the four things that can be asked for,
  and of all items that write the same thing the last one counts. So of two requests, one after the
  other, the earlier one is left what the later one does not write.
-/
namespace ClusterPrep.Batch

/-- The things that can be asked for. -/
inductive Asked
  | nodes
  | tasksPerNode
  | wallTime
  | memory
deriving DecidableEq

/-- How much of a thing is asked for. -/
def Resources.get (r : Resources) : Asked → Option Text
  | .nodes => r.nodes
  | .tasksPerNode => r.tasksPerNode
  | .wallTime => r.wallTime
  | .memory => r.memory

/-! ### What is written -/

/-- The item that gives a value to a key. -/
def itemOf (key value : Text) : Text := key ++ .char '=' :: value

/-- The keys of items that ask for chunks of nodes. -/
def chunkKeys : List Text := ["nodes", "select"]

/-- The keys that ask for tasks per node. -/
def tasksKeys : List Text := ["ppn", "ncpus", "mpiprocs"]

/-- Among the qualifiers of a chunk, the first that asks for tasks asks for so many. -/
inductive FirstTasks : List Text → Text → Prop
  | here {key tasks : Text} {rest : List Text} (known : key ∈ tasksKeys) :
      FirstTasks (itemOf key tasks :: rest) tasks
  | later {qualifier tasks : Text} {rest : List Text}
      (other : ∀ key ∈ tasksKeys, ∀ v, qualifier ≠ itemOf key v) (found : FirstTasks rest tasks) :
      FirstTasks (qualifier :: rest) tasks

/-- What an item writes: an item that asks for chunks has their number before the first colon and
    their qualifiers after it. An item that is not listed here writes nothing. -/
inductive Writes : Text → Asked → Text → Prop
  | nodes {key chunk count : Text} {qualifiers : List Text} (known : key ∈ chunkKeys)
      (divided : Text.pieces ':' chunk = count :: qualifiers) :
      Writes (itemOf key chunk) .nodes count
  | qualifier {key chunk count tasks : Text} {qualifiers : List Text} (known : key ∈ chunkKeys)
      (divided : Text.pieces ':' chunk = count :: qualifiers)
      (first : FirstTasks qualifiers tasks) : Writes (itemOf key chunk) .tasksPerNode tasks
  | tasks {key tasks : Text} (known : key ∈ tasksKeys) :
      Writes (itemOf key tasks) .tasksPerNode tasks
  | wallTime (v : Text) : Writes (itemOf "walltime" v) .wallTime v
  | memory (v : Text) : Writes (itemOf "mem" v) .memory v

/-- None of the items writes the thing. -/
def Unwritten (items : List Text) (a : Asked) : Prop := ∀ item ∈ items, ∀ v, ¬ Writes item a v

/-- The last of the items that write the thing writes this value. -/
def LastWrite (items : List Text) (a : Asked) (v : Text) : Prop :=
  ∃ before item after, items = before ++ item :: after ∧ Writes item a v ∧ Unwritten after a

/-! ### One item -/

/-- An item has a key, which ends at the first equals sign, or no such sign at all. -/
theorem key_cases (s : Text) :
    .char '=' ∉ s ∨ ∃ key v, .char '=' ∉ key ∧ s = itemOf key v := by
  by_cases sign : .char '=' ∈ s
  · obtain ⟨key, v, whole, clear⟩ := List.eq_append_cons_of_mem sign
    exact Or.inr ⟨key, v, clear, whole⟩
  · exact Or.inl sign

theorem cut_itemOf {key : Text} (clear : .char '=' ∉ key) (v : Text) :
    Text.cut '=' (itemOf key v) = (key, some v) :=
  Text.cut_append _ _ _ clear

theorem clear_of_mem_chunkKeys {key : Text} (known : key ∈ chunkKeys) : .char '=' ∉ key := by
  revert key
  decide

theorem clear_of_mem_tasksKeys {key : Text} (known : key ∈ tasksKeys) : .char '=' ∉ key := by
  revert key
  decide

theorem key_eq_of_itemOf {key key' v v' : Text} (clear : .char '=' ∉ key)
    (clear' : .char '=' ∉ key') (same : itemOf key v = itemOf key' v') : key = key' := by
  have cut := cut_itemOf clear v
  rw [same, cut_itemOf clear'] at cut
  exact (congrArg Prod.fst cut).symm

theorem value_subset_itemOf (key v : Text) : v ⊆ itemOf key v :=
  fun _ inside => List.mem_append_right key (List.mem_cons_of_mem _ inside)

theorem FirstTasks.exists_subset {qualifiers : List Text} {tasks : Text}
    (first : FirstTasks qualifiers tasks) : ∃ q ∈ qualifiers, tasks ⊆ q := by
  induction first with
  | @here key tasks _ _ => exact ⟨_, List.mem_cons_self, value_subset_itemOf key tasks⟩
  | later _ _ ih =>
      obtain ⟨q, member, inside⟩ := ih
      exact ⟨q, List.mem_cons_of_mem _ member, inside⟩

/-- What an item writes is a part of it. -/
theorem Writes.subset {item v : Text} {a : Asked} (writes : Writes item a v) : v ⊆ item := by
  have pieces {key chunk count piece : Text} {qualifiers : List Text}
      (divided : Text.pieces ':' chunk = count :: qualifiers)
      (member : piece ∈ count :: qualifiers) : piece ⊆ itemOf key chunk := by
    rw [← divided] at member
    exact fun c inside => value_subset_itemOf key chunk (Text.mem_of_mem_pieces member inside)
  cases writes with
  | nodes _ divided => exact pieces divided List.mem_cons_self
  | qualifier _ divided first =>
      obtain ⟨q, member, inside⟩ := first.exists_subset
      exact List.Subset.trans inside (pieces divided (List.mem_cons_of_mem _ member))
  | tasks => exact value_subset_itemOf _ v
  | wallTime => exact value_subset_itemOf _ v
  | memory => exact value_subset_itemOf _ v

namespace Resources

theorem isTasksKey_iff {key : Text} : isTasksKey key = true ↔ key ∈ tasksKeys := by
  simp [isTasksKey, tasksKeys, or_assoc]

theorem chunkTasks_cons_of_clear {q : Text} (clear : .char '=' ∉ q) (rest : List Text) :
    chunkTasks (q :: rest) = chunkTasks rest := by
  rw [chunkTasks, Text.cut_of_not_mem clear]

theorem chunkTasks_cons_itemOf {key : Text} (clear : .char '=' ∉ key) (v : Text)
    (rest : List Text) : chunkTasks (itemOf key v :: rest) =
      if key ∈ tasksKeys then some v else chunkTasks rest := by
  rw [chunkTasks, cut_itemOf clear]
  simp only [isTasksKey_iff]

theorem chunkTasks_eq_some_iff {qualifiers : List Text} {tasks : Text} :
    chunkTasks qualifiers = some tasks ↔ FirstTasks qualifiers tasks := by
  constructor
  · intro found
    induction qualifiers with
    | nil => cases found
    | cons q rest ih =>
        rcases key_cases q with clear | ⟨key, v, clear, rfl⟩
        · rw [chunkTasks_cons_of_clear clear] at found
          refine .later (fun key known v same => clear ?_) (ih found)
          simp [same, itemOf]
        · rw [chunkTasks_cons_itemOf clear] at found
          split at found
          · rename_i known
            cases found
            exact .here known
          · rename_i unknown
            refine .later (fun key' known v' same => unknown ?_) (ih found)
            rwa [key_eq_of_itemOf clear (clear_of_mem_tasksKeys known) same]
  · intro first
    induction first with
    | here known => rw [chunkTasks_cons_itemOf (clear_of_mem_tasksKeys known), if_pos known]
    | @later q tasks rest other _ ih =>
        rcases key_cases q with clear | ⟨key, v, clear, rfl⟩
        · rw [chunkTasks_cons_of_clear clear, ih]
        · rw [chunkTasks_cons_itemOf clear, if_neg fun known => other key known v rfl, ih]

section

variable (r : Resources) {key : Text} (v : Text)

theorem add_of_clear {s : Text} (clear : .char '=' ∉ s) : r.add s = r := by
  rw [add, Text.cut_of_not_mem clear]

theorem add_chunk {count : Text} {qualifiers : List Text} (known : key ∈ chunkKeys)
    (divided : Text.pieces ':' v = count :: qualifiers) :
    r.add (itemOf key v) =
      { r with
        nodes := some count, tasksPerNode := (chunkTasks qualifiers).or r.tasksPerNode } := by
  have chunk : key = "nodes" ∨ key = "select" := by simpa [chunkKeys] using known
  rw [add, cut_itemOf (clear_of_mem_chunkKeys known)]
  dsimp only
  rw [if_pos chunk, divided]
  cases found : chunkTasks qualifiers <;> simp [found]

theorem add_tasks (known : key ∈ tasksKeys) :
    r.add (itemOf key v) = { r with tasksPerNode := some v } := by
  have other : ¬ (key = "nodes" ∨ key = "select") := by
    revert key
    decide
  rw [add, cut_itemOf (clear_of_mem_tasksKeys known)]
  dsimp only
  rw [if_neg other, if_pos (isTasksKey_iff.mpr known)]

theorem add_wallTime : r.add (itemOf "walltime" v) = { r with wallTime := some v } := by
  rw [add, cut_itemOf (by decide)]
  rfl

theorem add_memory : r.add (itemOf "mem" v) = { r with memory := some v } := by
  rw [add, cut_itemOf (by decide)]
  rfl

theorem add_unknown (clear : .char '=' ∉ key) (chunk : key ∉ chunkKeys) (tasks : key ∉ tasksKeys)
    (wallTime : key ≠ "walltime") (memory : key ≠ "mem") : r.add (itemOf key v) = r := by
  have other : ¬ (key = "nodes" ∨ key = "select") := by simpa [chunkKeys] using chunk
  rw [add, cut_itemOf clear]
  dsimp only
  rw [if_neg other, if_neg (mt isTasksKey_iff.mp tasks), if_neg wallTime, if_neg memory]

end

/-- The sorts of items there are. -/
inductive ItemSort : Text → Prop
  | chunk {key v count : Text} {qualifiers : List Text} (known : key ∈ chunkKeys)
      (divided : Text.pieces ':' v = count :: qualifiers) : ItemSort (itemOf key v)
  | tasks {key : Text} (known : key ∈ tasksKeys) (v : Text) : ItemSort (itemOf key v)
  | wallTime (v : Text) : ItemSort (itemOf "walltime" v)
  | memory (v : Text) : ItemSort (itemOf "mem" v)
  | inert {s : Text} (same : ∀ r : Resources, r.add s = r) : ItemSort s

/-- Every text is an item of one of the sorts. -/
theorem itemSort (s : Text) : ItemSort s := by
  rcases key_cases s with clear | ⟨key, v, clear, rfl⟩
  · exact .inert fun r => r.add_of_clear clear
  by_cases chunk : key ∈ chunkKeys
  · obtain ⟨count, qualifiers, divided⟩ := List.exists_cons_of_ne_nil (Text.pieces_ne_nil ':' v)
    exact .chunk chunk divided
  by_cases tasks : key ∈ tasksKeys
  · exact .tasks tasks v
  by_cases wallTime : key = "walltime"
  · rw [wallTime]
    exact .wallTime v
  by_cases memory : key = "mem"
  · rw [memory]
    exact .memory v
  · exact .inert fun r => r.add_unknown v clear chunk tasks wallTime memory

/-- What an item adds to an empty request is what it writes. -/
theorem get_add_eq_some_iff {s : Text} {a : Asked} {v : Text} :
    (({} : Resources).add s).get a = some v ↔ Writes s a v := by
  constructor
  · intro written
    cases itemSort s with
    | @chunk key chunk count qualifiers known divided =>
        rw [add_chunk _ _ known divided] at written
        cases a with
        | nodes =>
            cases written
            exact .nodes known divided
        | tasksPerNode =>
            have found : chunkTasks qualifiers = some v := by simpa [get] using written
            exact .qualifier known divided (chunkTasks_eq_some_iff.mp found)
        | wallTime => cases written
        | memory => cases written
    | tasks known =>
        rw [add_tasks _ _ known] at written
        cases a <;> cases written
        exact .tasks known
    | wallTime =>
        rw [add_wallTime] at written
        cases a <;> cases written
        exact .wallTime v
    | memory =>
        rw [add_memory] at written
        cases a <;> cases written
        exact .memory v
    | inert same =>
        rw [same] at written
        cases a <;> cases written
  · intro writes
    cases writes with
    | nodes known divided =>
        rw [add_chunk _ _ known divided]
        rfl
    | qualifier known divided first =>
        rw [add_chunk _ _ known divided, chunkTasks_eq_some_iff.mpr first]
        rfl
    | tasks known =>
        rw [add_tasks _ _ known]
        rfl
    | wallTime =>
        rw [add_wallTime]
        rfl
    | memory =>
        rw [add_memory]
        rfl

/-! ### One request after another -/

/-- A request put onto an earlier one, of which stays what the later one does not ask for. -/
def onto (later earlier : Resources) : Resources where
  nodes := later.nodes.or earlier.nodes
  tasksPerNode := later.tasksPerNode.or earlier.tasksPerNode
  wallTime := later.wallTime.or earlier.wallTime
  memory := later.memory.or earlier.memory

@[simp] theorem get_onto (later earlier : Resources) (a : Asked) :
    (later.onto earlier).get a = (later.get a).or (earlier.get a) := by
  cases a <;> rfl

@[simp] theorem empty_onto (r : Resources) : ({} : Resources).onto r = r := rfl

theorem onto_assoc (r s t : Resources) : (r.onto s).onto t = r.onto (s.onto t) := by
  simp only [onto, Option.or_assoc]

/-- An item is added to a request as it is to an empty one. -/
theorem add_eq_onto (r : Resources) (s : Text) : r.add s = (({} : Resources).add s).onto r := by
  cases itemSort s with
  | chunk known divided =>
      rw [add_chunk _ _ known divided, add_chunk _ _ known divided]
      simp [onto]
  | tasks known =>
      rw [add_tasks _ _ known, add_tasks _ _ known]
      simp [onto]
  | wallTime =>
      rw [add_wallTime, add_wallTime]
      simp [onto]
  | memory =>
      rw [add_memory, add_memory]
      simp [onto]
  | inert same => rw [same, same, empty_onto]

/-- What is added step by step is added as a whole. -/
theorem foldl_eq_onto {α : Type} {step : Resources → α → Resources}
    (each : ∀ r x, step r x = (step {} x).onto r) (xs : List α) (r : Resources) :
    xs.foldl step r = (xs.foldl step {}).onto r := by
  induction xs generalizing r with
  | nil => exact (empty_onto r).symm
  | cons x xs ih =>
      rw [List.foldl_cons, List.foldl_cons, ih (step r x), ih (step {} x), each r, onto_assoc]

theorem addList_eq_onto (r : Resources) (list : Text) :
    r.addList list = (({} : Resources).addList list).onto r :=
  foldl_eq_onto add_eq_onto _ r

end Resources

theorem requestAfter_eq_onto (r : Resources) (line : Text) :
    requestAfter r line = (requestAfter {} line).onto r := by
  unfold requestAfter
  cases Directive.ofLine? line with
  | none => rfl
  | some d =>
      dsimp only
      split
      · exact r.addList_eq_onto d.value
      · rfl

/-- The request of a script is that of its last lines after that of its first ones. -/
theorem request_append (s t : Text) : request (s ++ "\n" ++ t) = (request t).onto (request s) := by
  have divided : Text.lines (s ++ "\n" ++ t) = Text.lines s ++ Text.lines t := by
    rw [List.append_assoc]
    exact Text.pieces_append _ s t
  rw [request, divided, List.foldl_append]
  exact Resources.foldl_eq_onto requestAfter_eq_onto _ _

/-! ### The last write -/

theorem get_add_of_writes (r : Resources) {s v : Text} {a : Asked} (writes : Writes s a v) :
    (r.add s).get a = some v := by
  rw [r.add_eq_onto, Resources.get_onto, Resources.get_add_eq_some_iff.mpr writes, Option.some_or]

/-- What a request holds after an item is written by it or was there before. -/
theorem writes_or_of_get_add {r : Resources} {s v : Text} {a : Asked}
    (held : (r.add s).get a = some v) : Writes s a v ∨ r.get a = some v := by
  rw [r.add_eq_onto, Resources.get_onto, Option.or_eq_some_iff] at held
  exact held.imp Resources.get_add_eq_some_iff.mp And.right

/-- An item leaves what it does not write. -/
theorem get_add_of_not (r : Resources) {s : Text} {a : Asked} (none : ∀ v, ¬ Writes s a v) :
    (r.add s).get a = r.get a := by
  have empty : (({} : Resources).add s).get a = .none :=
    Option.eq_none_iff_forall_ne_some.mpr fun v => mt Resources.get_add_eq_some_iff.mp (none v)
  rw [r.add_eq_onto, Resources.get_onto, empty, Option.none_or]

theorem get_foldl_of_unwritten {items : List Text} {a : Asked} (unwritten : Unwritten items a)
    (r : Resources) : (items.foldl Resources.add r).get a = r.get a := by
  induction items generalizing r with
  | nil => rfl
  | cons item items ih =>
      obtain ⟨first, rest⟩ := List.forall_mem_cons.mp unwritten
      rw [List.foldl_cons, ih rest, get_add_of_not r first]

theorem get_foldl_of_lastWrite {items : List Text} {a : Asked} {v : Text}
    (last : LastWrite items a v) (r : Resources) :
    (items.foldl Resources.add r).get a = some v := by
  obtain ⟨before, item, after, rfl, writes, unwritten⟩ := last
  rw [List.foldl_append, List.foldl_cons, get_foldl_of_unwritten unwritten,
    get_add_of_writes _ writes]

/-- If any item writes the thing, one of them is the last to do so. -/
theorem unwritten_or_lastWrite (items : List Text) (a : Asked) :
    Unwritten items a ∨ ∃ v, LastWrite items a v := by
  induction items with
  | nil => exact Or.inl fun item member => nomatch member
  | cons item items ih =>
      rcases ih with unwritten | ⟨v, before, last, after, rfl, writes, unwritten⟩
      · by_cases written : ∃ v, Writes item a v
        · obtain ⟨v, writes⟩ := written
          exact Or.inr ⟨v, [], item, items, rfl, writes, unwritten⟩
        · exact Or.inl (List.forall_mem_cons.mpr ⟨not_exists.mp written, unwritten⟩)
      · exact Or.inr ⟨v, item :: before, last, after, rfl, writes, unwritten⟩

/-- **The last write counts.** Of every thing a list of items leaves in a request what the last item
    that writes it writes, or what was there before. So one list after another is added like both in
    one, and the request of two scripts in one is that of the second after that of the first. -/
theorem addList_lastWrite :
    (∀ (r : Resources) (list : Text) (a : Asked) (amount : Option Text),
      (r.addList list).get a = amount ↔
        (∃ v, LastWrite (Text.pieces ',' list) a v ∧ amount = some v) ∨
          (Unwritten (Text.pieces ',' list) a ∧ amount = r.get a)) ∧
      (∀ (r : Resources) (list other : Text),
        r.addList (list ++ "," ++ other) = (r.addList list).addList other) ∧
      ∀ (s t : Text) (a : Asked),
        (request (s ++ "\n" ++ t)).get a = ((request t).get a).or ((request s).get a) := by
  refine ⟨fun r list a amount => ?_, fun r list other => ?_, fun s t a => ?_⟩
  · rw [Resources.addList]
    constructor
    · rintro rfl
      rcases unwritten_or_lastWrite (Text.pieces ',' list) a with unwritten | ⟨v, last⟩
      · exact Or.inr ⟨unwritten, get_foldl_of_unwritten unwritten r⟩
      · exact Or.inl ⟨v, last, get_foldl_of_lastWrite last r⟩
    · rintro (⟨v, last, rfl⟩ | ⟨unwritten, rfl⟩)
      · exact get_foldl_of_lastWrite last r
      · exact get_foldl_of_unwritten unwritten r
  · have divided : Text.pieces ',' (list ++ "," ++ other) =
        Text.pieces ',' list ++ Text.pieces ',' other := by
      rw [List.append_assoc]
      exact Text.pieces_append _ list other
    rw [Resources.addList, divided, List.foldl_append]
    rfl
  · rw [request_append, Resources.get_onto]

end ClusterPrep.Batch
