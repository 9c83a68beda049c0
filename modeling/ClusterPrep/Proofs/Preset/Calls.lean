import ClusterPrep.Preset.Builtin
import ClusterPrep.Proofs.Preset.Directory

set_option autoImplicit false

/-
  The directory of presets answers as a map from names to configurations would. A call changes at
  most the entry of the name that it is about, and the map after a call is the one that the
  directory holds then; so a run of calls gives the answers of the map, however long it is.
-/
namespace ClusterPrep.Preset

/-- What presets are asked to do. -/
inductive Call
  | save (name : Text) (c : Hpl.Config)
  | load (name : Text)
  | delete (name : Text)
  | list
  | seed

/-- What a call gives: the file that was written, the configuration that was found, whether there
    was one, the names, or nothing. -/
inductive Answer
  | file (name : Text)
  | config (c? : Option Hpl.Config)
  | truth (b : Bool)
  | names (ns : List Text)
  | done

/-- The name that a call is about, as it was given. -/
def Call.name? : Call → Option Text
  | .save s _ | .load s | .delete s => some s
  | .list | .seed => none

/-- A call with a configuration that a preset can keep, if any. -/
def Call.IsStorable : Call → Prop
  | .save _ c => Storable c
  | .load _ | .delete _ | .list | .seed => True

instance : DecidablePred Call.IsStorable
  | .save _ c => inferInstanceAs (Decidable (Storable c))
  | .load _ | .delete _ | .list | .seed => isTrue trivial

/-! ### Calls to the directory -/

/-- The directory after a call, and its answer. -/
def Call.run (nesting : Nesting) (store : Store) : Call → Attempt (Store × Answer)
  | .save s c => do
    let (store, file) ← store.save s c
    return (store, .file file)
  | .load s => do return (store, .config (← store.load s nesting).1)
  | .delete s => do
    let (store, there) ← store.delete s
    return (store, .truth there)
  | .list => return (store, .names store.names)
  | .seed => do return (← store.seed, .done)

/-- The same for a call that may fail, which leaves the directory as it was. -/
def Call.step (nesting : Nesting) (store : Store) (call : Call) : Store × Attempt Answer :=
  match call.run nesting store with
  | .ok (after, answer) => (after, .ok answer)
  | .error e => (store, .error e)

/-- The answers to some calls, one after the other. -/
def answers (nesting : Nesting) : Store → List Call → List (Attempt Answer)
  | _, [] => []
  | store, call :: calls =>
    (call.step nesting store).2 :: answers nesting (call.step nesting store).1 calls

/-! ### The presets to begin with -/

/-- The content of the benchmark's sample file. -/
def sample : Hpl.Config where
  outFile := .text "HPL.out"
  outDevice := .int 6
  ns := [.int 29000]
  nbs := [.int 128]
  pmap := .int 0
  ps := [.int 2]
  qs := [.int 2]
  threshold := .real (.ofInt 16)
  pfacts := [.int 2]
  nbmins := [.int 4]
  ndivs := [.int 2]
  rfacts := [.int 1]
  bcasts := [.int 1]
  depths := [.int 1]
  swap := .int 2
  swappingThreshold := .int 64
  l1 := .int 0
  u := .int 0
  equilibration := .int 1
  alignment := .int 8

/-- The sample as a short test on one process. -/
def smokeTest : Hpl.Config :=
  { sample with ns := [.int 5000], nbs := [.int 128], ps := [.int 1], qs := [.int 1] }

/-- The sample for a node with sixteen ranks. -/
def singleNode : Hpl.Config :=
  { sample with ns := [.int 40000], nbs := [.int 192], ps := [.int 4], qs := [.int 4] }

/-- The sample with three block sizes. -/
def blockSizes : Hpl.Config :=
  { sample with
    ns := [.int 29000], nbs := [.int 128, .int 192, .int 256], ps := [.int 2], qs := [.int 2] }

/-- The sample with all panel factorizations. -/
def factorizations : Hpl.Config :=
  { sample with
    pfacts := [.int 0, .int 1, .int 2], rfacts := [.int 0, .int 1, .int 2]
    bcasts := [.int 1, .int 2] }

/-- The map to begin with: five presets, each under its name. -/
def firstEntries : Entries := fun n =>
  if n = "HPL Defaults" then some sample
  else if n = "Quick Smoke Test" then some smokeTest
  else if n = "Single Node 16 Ranks" then some singleNode
  else if n = "Block Size Sweep" then some blockSizes
  else if n = "Panel Factorization Sweep" then some factorizations
  else none

/-! ### Calls to a map -/

/-- What a map answers to a call, and the map after it. -/
inductive Gives (m : Entries) : Call → Attempt Answer → Entries → Prop
  | refused {call : Call} {s : Text} {e : Failure} (about : call.name? = some s)
      (bad : checkName s = .error e) (kind : e.kind = .badValue) : Gives m call (.error e) m
  | saved {s : Text} {c : Hpl.Config} (good : checkName s = .ok (Text.strip s)) :
      Gives m (.save s c) (.ok (.file (fileOf (Text.strip s))))
        (Function.update m (Text.strip s) (some c))
  | loaded {s : Text} (good : checkName s = .ok (Text.strip s)) :
      Gives m (.load s) (.ok (.config (m (Text.strip s)))) m
  | deleted {s : Text} (good : checkName s = .ok (Text.strip s)) :
      Gives m (.delete s) (.ok (.truth (m (Text.strip s)).isSome))
        (Function.update m (Text.strip s) none)
  | listed {ns : List Text} (distinct : ns.Nodup) (all : ∀ n, n ∈ ns ↔ (m n).isSome = true)
      (ordered : ns.Pairwise fun a b => Store.textLe (Text.lower a) (Text.lower b) = true) :
      Gives m .list (.ok (.names ns)) m
  | seeded (empty : ∀ n, m n = none) : Gives m .seed (.ok .done) firstEntries
  | kept {n : Text} (there : (m n).isSome = true) : Gives m .seed (.ok .done) m

/-- What a map answers to some calls, one after the other. -/
inductive Traces : Entries → List Call → List (Attempt Answer) → Prop
  | nil (m : Entries) : Traces m [] []
  | cons {m after : Entries} {call : Call} {calls : List Call} {answer : Attempt Answer}
      {answers : List (Attempt Answer)} (first : Gives m call answer after)
      (rest : Traces after calls answers) : Traces m (call :: calls) (answer :: answers)

/-! ### One call -/

/-- The map with some configurations set, one after the other. -/
def Entries.saveAll (m : Entries) (presets : List (Text × Hpl.Config)) : Entries :=
  presets.foldl (fun (m : Entries) p => Function.update m p.1 (some p.2)) m

namespace Represents

variable {store : Store} {m : Entries} (rep : Represents store m)
include rep

/-- A configuration is saved under its name. -/
theorem exists_save {s n : Text} {c : Hpl.Config} (named : checkName s = .ok n)
    (storable : Storable c) :
    ∃ after, store.save s c = .ok (after, fileOf n) ∧
      Represents after (Function.update m n (some c)) := by
  obtain ⟨t, written, -⟩ := storable.exists_parse .usual
  refine ⟨_, ?_, rep.putFile (ne_nil_of_checkName named) storable written⟩
  rw [Store.save, pathOf, named, written]
  rfl

theorem exists_load {s n : Text} (nesting : Nesting) (named : checkName s = .ok n) :
    ∃ notices, store.load s nesting = .ok (m n, notices) := by
  have holds := rep.holds n (ne_nil_of_checkName named)
  generalize entry : m n = c? at holds ⊢
  generalize found : store.file? (fileOf n) = bytes? at holds
  cases holds with
  | held storable written => exact storable.load_eq nesting named written found
  | missing =>
      refine ⟨[], ?_⟩
      rw [Store.load, pathOf, named]
      simp only [bind, Except.bind, pure, Except.pure, found]

theorem exists_delete {s n : Text} (named : checkName s = .ok n) :
    ∃ after, store.delete s = .ok (after, (m n).isSome) ∧
      Represents after (Function.update m n none) := by
  have nonempty := ne_nil_of_checkName named
  refine ⟨_, ?_, rep.removeFile nonempty⟩
  rw [Store.delete, pathOf, named, ← (rep.holds n nonempty).isSome_eq]
  rfl

/-- Configurations are saved under their names, one after the other. -/
theorem exists_saveAll {presets : List (Text × Hpl.Config)}
    (named : ∀ p ∈ presets, checkName p.1 = .ok p.1) (storable : ∀ p ∈ presets, Storable p.2) :
    ∃ after, presets.foldlM (fun s nc => return (← s.save nc.1 nc.2).1) store =
        (.ok after : Attempt Store) ∧
      Represents after (m.saveAll presets) := by
  induction presets generalizing store m with
  | nil => exact ⟨store, rfl, rep⟩
  | cons p presets ih =>
      obtain ⟨next, saved, rep⟩ := rep.exists_save (named p (by simp)) (storable p (by simp))
      obtain ⟨after, rest, rep⟩ := ih rep
        (fun q member => named q (List.mem_cons_of_mem p member))
        fun q member => storable q (List.mem_cons_of_mem p member)
      refine ⟨after, ?_, rep⟩
      rw [List.foldlM_cons, saved]
      exact rest

end Represents

/-- Of configurations with distinct names each is found under its own. -/
theorem Entries.saveAll_apply {presets : List (Text × Hpl.Config)}
    (distinct : (presets.map Prod.fst).Nodup) (m : Entries) (n : Text) :
    m.saveAll presets n = (presets.lookup n).or (m n) := by
  induction presets generalizing m with
  | nil => rfl
  | cons p presets ih =>
      obtain ⟨k, c⟩ := p
      rw [List.map_cons, List.nodup_cons] at distinct
      have rest := ih distinct.2 (Function.update m k (some c))
      rw [saveAll] at rest ⊢
      rw [List.foldl_cons, rest, List.lookup_cons]
      by_cases same : n = k
      · subst same
        have later : presets.lookup n = none := by
          rw [List.lookup_eq_none_iff]
          intro p member
          have key : p.1 ∈ presets.map Prod.fst := List.mem_map_of_mem member
          exact bne_iff_ne.mpr fun same => distinct.1 (same ▸ key)
        rw [later, Function.update_self, beq_self_eq_true]
        rfl
      · rw [Function.update_of_ne same, beq_eq_false_iff_ne.mpr same]

theorem checkName_builtin : ∀ p ∈ builtin, checkName p.1 = .ok p.1 := by
  have named : ∀ p ∈ builtin, (checkName p.1).toOption = some p.1 := by decide
  exact fun p member => Attempt.ok_of_toOption (named p member)

theorem storable_builtin : ∀ p ∈ builtin, Storable p.2 := by decide +kernel

theorem lookup_cons_eq_ite (n k : Text) (c : Hpl.Config) (rest : List (Text × Hpl.Config)) :
    ((k, c) :: rest).lookup n = if n = k then some c else rest.lookup n := by
  rw [List.lookup_cons]
  by_cases same : n = k
  · rw [if_pos same, beq_iff_eq.mpr same]
  · rw [if_neg same, beq_eq_false_iff_ne.mpr same]

/-- The presets that are saved to begin with are those of the map. -/
theorem lookup_builtin (n : Text) : builtin.lookup n = firstEntries n := by
  rw [builtin]
  simp only [lookup_cons_eq_ite]
  rfl

/-- The presets to begin with are saved in an empty directory, and in no other. -/
theorem Represents.exists_seed {store : Store} {m : Entries} (rep : Represents store m) :
    ∃ after m', store.seed = .ok after ∧ Gives m .seed (.ok .done) m' ∧ Represents after m' := by
  rw [Store.seed]
  cases listed : store.names with
  | nil =>
      have empty (n : Text) : m n = none := by
        have absent := (rep.mem_names_iff n).not
        rw [listed] at absent
        simpa using absent
      obtain ⟨after, saved, rep⟩ := rep.exists_saveAll checkName_builtin storable_builtin
      refine ⟨after, firstEntries, saved, .seeded empty, ?_⟩
      have distinct : (builtin.map Prod.fst).Nodup := by decide
      have same : m.saveAll builtin = firstEntries := by
        funext n
        rw [Entries.saveAll_apply distinct, empty, Option.or_none, lookup_builtin]
      rwa [← same]
  | cons n ns =>
      have there : (m n).isSome = true := (rep.mem_names_iff n).mp (listed ▸ List.mem_cons_self)
      exact ⟨store, m, rfl, .kept there, rep⟩

/-- A call with a bad name fails with it and changes nothing. -/
theorem Call.step_of_refused {call : Call} {s : Text} {e : Failure} (about : call.name? = some s)
    (bad : checkName s = .error e) (nesting : Nesting) (store : Store) :
    call.step nesting store = (store, .error e) := by
  cases call with
  | save t c =>
      cases about
      rw [step, run, Store.save, pathOf, bad]
      rfl
  | load t =>
      cases about
      rw [step, run, Store.load, pathOf, bad]
      rfl
  | delete t =>
      cases about
      rw [step, run, Store.delete, pathOf, bad]
      rfl
  | list => cases about
  | seed => cases about

theorem Represents.exists_step {store : Store} {m : Entries} (rep : Represents store m)
    {call : Call} (storable : call.IsStorable) (nesting : Nesting) :
    ∃ m', Gives m call (call.step nesting store).2 m' ∧
      Represents (call.step nesting store).1 m' := by
  -- A bad name stops every call that is about one.
  by_cases refused : ∃ s e, call.name? = some s ∧ checkName s = .error e
  · obtain ⟨s, e, about, bad⟩ := refused
    rw [Call.step_of_refused about bad]
    exact ⟨m, .refused about bad (kind_of_checkName bad), rep⟩
  have good {s : Text} (about : call.name? = some s) : checkName s = .ok (Text.strip s) := by
    cases named : checkName s with
    | ok n => rw [eq_strip_of_checkName named]
    | error e => exact absurd ⟨s, e, about, named⟩ refused
  cases call with
  | save s c =>
      obtain ⟨after, saved, rep⟩ := rep.exists_save (good rfl) storable
      rw [Call.step, Call.run, saved]
      exact ⟨_, .saved (good rfl), rep⟩
  | load s =>
      obtain ⟨notices, loaded⟩ := rep.exists_load nesting (good rfl)
      rw [Call.step, Call.run, loaded]
      exact ⟨_, .loaded (good rfl), rep⟩
  | delete s =>
      obtain ⟨after, deleted, rep⟩ := rep.exists_delete (good rfl)
      rw [Call.step, Call.run, deleted]
      exact ⟨_, .deleted (good rfl), rep⟩
  | list => exact ⟨m, .listed rep.nodup_names rep.mem_names_iff (pairwise_names store), rep⟩
  | seed =>
      obtain ⟨after, m', seeded, gives, rep⟩ := rep.exists_seed
      rw [Call.step, Call.run, seeded]
      exact ⟨m', gives, rep⟩

/-! ### The presets that seeding adds -/

/-- The names of the presets to begin with, in the order of a list. -/
def firstNames : List Text := [
  "Block Size Sweep", "HPL Defaults", "Panel Factorization Sweep", "Quick Smoke Test",
  "Single Node 16 Ranks"]

theorem mem_firstNames_iff (n : Text) : n ∈ firstNames ↔ (firstEntries n).isSome = true := by
  simp only [firstNames, List.mem_cons, List.not_mem_nil, or_false, firstEntries]
  split_ifs <;> simp_all

/-- The order of names puts those of the presets to begin with into one sequence. -/
theorem eq_firstNames {ns : List Text} (distinct : ns.Nodup)
    (all : ∀ n, n ∈ ns ↔ (firstEntries n).isSome = true)
    (ordered : ns.Pairwise fun a b => Store.textLe (Text.lower a) (Text.lower b) = true) :
    ns = firstNames := by
  have same (n : Text) : n ∈ ns ↔ n ∈ firstNames := by rw [all, mem_firstNames_iff]
  have names : firstNames.Nodup := by decide
  have perm : ns.Perm firstNames := (List.perm_ext_iff_of_nodup distinct names).mpr same
  have antisymm : ∀ a ∈ firstNames, ∀ b ∈ firstNames,
      Store.textLe (Text.lower a) (Text.lower b) = true →
        Store.textLe (Text.lower b) (Text.lower a) = true → a = b := by
    decide
  refine perm.eq_of_pairwise (fun a b left right => ?_) ordered (by decide)
  exact antisymm a ((same a).mp left) b right

/-- An empty map gets the presets to begin with. -/
theorem Gives.of_seed {after : Entries} {answer : Attempt Answer}
    (gives : Gives (fun _ => none) .seed answer after) :
    answer = .ok .done ∧ after = firstEntries := by
  cases gives with
  | refused about => cases about
  | seeded => exact ⟨rfl, rfl⟩
  | kept there => cases there

theorem Gives.of_list {after : Entries} {answer : Attempt Answer}
    (gives : Gives firstEntries .list answer after) :
    answer = .ok (.names firstNames) ∧ after = firstEntries := by
  cases gives with
  | refused about => cases about
  | listed distinct all ordered =>
      rw [eq_firstNames distinct all ordered]
      exact ⟨rfl, rfl⟩

theorem Traces.of_load {m : Entries} {names : List Text} {answers : List (Attempt Answer)}
    (good : ∀ n ∈ names, checkName n = .ok n) (traces : Traces m (names.map .load) answers) :
    answers = names.map fun n => .ok (.config (m n)) := by
  induction names generalizing answers with
  | nil =>
      cases traces
      rfl
  | cons n names ih =>
      have named := good n List.mem_cons_self
      cases traces with
      | cons first rest =>
          cases first with
          | refused about bad =>
              cases about
              rw [named] at bad
              cases bad
          | loaded =>
              rw [ih (fun other member => good other (List.mem_cons_of_mem n member)) rest,
                ← eq_strip_of_checkName named]
              rfl

/-! ### Runs of calls -/

theorem Represents.traces {store : Store} {m : Entries} (rep : Represents store m)
    {calls : List Call} (storable : ∀ call ∈ calls, call.IsStorable) (nesting : Nesting) :
    Traces m calls (answers nesting store calls) := by
  induction calls generalizing store m with
  | nil => exact .nil m
  | cons call calls ih =>
      obtain ⟨m', first, rep⟩ := rep.exists_step (storable call (by simp)) nesting
      exact .cons first (ih rep fun other member => storable other (List.mem_cons_of_mem _ member))

/-- **The directory of presets is a map from names to configurations.** It begins without a file, as
    a missing one, and every call gets the answer that the map gives after the calls before it. -/
theorem traces_answers {calls : List Call} (storable : ∀ call ∈ calls, call.IsStorable)
    (nesting : Nesting) : Traces (fun _ => none) calls (answers nesting [] calls) :=
  Represents.empty.traces storable nesting

/-- Texts beyond ASCII, reals without value and every other kind of value that a preset keeps. -/
def strange : Hpl.Config where
  outFile := .text [.char '"', .char '\\', Char.ofNat 0x1F600, Char.ofNat 0xE9, Char.ofNat 0]
  threshold := .real .nan
  ns := [.real (.inf true), .int (-16), .bool true, .null, .text "\t"]
  ps := []

/-- The presets to begin with, of which one is replaced and another removed; a bad name; a list. -/
def strangeCalls : List Call := [
  .seed, .save " HPL Defaults\n" strange, .load "HPL Defaults", .delete "Block Size Sweep",
  .save "../out" {}, .load "Block Size Sweep", .list]

theorem traces_answers_strange :
    (∀ call ∈ strangeCalls, call.IsStorable) ∧
      Traces (fun _ => none) strangeCalls (answers .usual [] strangeCalls) ∧
      answers .usual [] (.seed :: .list :: firstNames.map .load) = [
        .ok .done, .ok (.names firstNames), .ok (.config (some blockSizes)),
        .ok (.config (some sample)), .ok (.config (some factorizations)),
        .ok (.config (some smokeTest)), .ok (.config (some singleNode))] := by
  have storable : ∀ call ∈ strangeCalls, call.IsStorable := by decide +kernel
  refine ⟨storable, traces_answers storable .usual, ?_⟩
  have plain : ∀ call ∈ Call.seed :: Call.list :: firstNames.map Call.load, call.IsStorable := by
    decide
  have good : ∀ n ∈ firstNames, (checkName n).toOption = some n := by decide
  have traces := traces_answers plain .usual
  generalize answers .usual [] (.seed :: .list :: firstNames.map .load) = given at traces ⊢
  obtain _ | ⟨seeded, rest⟩ := traces
  obtain ⟨rfl, rfl⟩ := seeded.of_seed
  obtain _ | ⟨listed, rest⟩ := rest
  obtain ⟨rfl, rfl⟩ := listed.of_list
  rw [rest.of_load fun n member => Attempt.ok_of_toOption (good n member)]
  rfl

end ClusterPrep.Preset
