import ClusterPrep.Proofs.Editor.Effects
import ClusterPrep.Proofs.Files.Tree

set_option autoImplicit false

/-
  Nothing is destroyed unless it was asked for and confirmed. The dialog with the question is on top
  from when it is asked until it is answered, and nothing changes meanwhile, so that the answer is
  about what the user saw. The presets are in a directory of their own, outside of which all paths
  of outputs lead.
-/
namespace ClusterPrep

/-! ### The names of the presets after a change -/

namespace Preset

/-- A name that stands for itself. -/
abbrev Proper (name : Text) : Prop := checkName name = .ok name

namespace Store

variable {store : Store} {name n : Text} {bytes : List UInt8}

theorem mem_names_putFile (nonempty : n ≠ [])
    (member : name ∈ (store.putFile (fileOf n) bytes).names) : name ∈ store.names ∨ name = n := by
  obtain ⟨file, there, told⟩ := Editor.mem_names_iff.mp member
  by_cases same : file = fileOf n
  · rw [same, nameOf?_fileOf nonempty] at told
    exact Or.inr (Option.some.inj told).symm
  · rw [file?_putFile_of_ne store _ _ _ same] at there
    exact Or.inl (Editor.mem_names_iff.mpr ⟨file, there, told⟩)

theorem mem_names_removeFile {removed : Text} (member : name ∈ (store.removeFile removed).names) :
    name ∈ store.names := by
  obtain ⟨file, there, told⟩ := Editor.mem_names_iff.mp member
  have other : file ≠ removed := by
    rintro rfl
    rw [file?_removeFile_self] at there
    cases there
  rw [file?_removeFile_of_ne store _ _ other] at there
  exact Editor.mem_names_iff.mpr ⟨file, there, told⟩

end Store

end Preset

namespace Editor

open Preset

/-! ### What always holds of presets and dialogs -/

/-- The dialogs name proper presets, and a question is asked on top of all others only. -/
structure Orderly (dialogs : List Dialog) : Prop where
  shown : ∀ table, .loadPreset table ∈ dialogs → ∀ row ∈ table.rows, Proper row.name
  asked : ∀ name, .confirm (.deletePreset name) ∈ dialogs → Proper name
  single : ∀ question, .confirm question ∉ dialogs.tail

namespace Orderly

variable {dialogs : List Dialog}

theorem nil : Orderly [] := ⟨by simp, by simp, by simp⟩

theorem tail (orderly : Orderly dialogs) : Orderly dialogs.tail where
  shown table member := orderly.shown table (List.mem_of_mem_tail member)
  asked name member := orderly.asked name (List.mem_of_mem_tail member)
  single question member := orderly.single question (List.mem_of_mem_tail member)

/-- Below the top there is no question, so a dialog that asks nothing can be put on top of it. -/
theorem cons_tail (orderly : Orderly dialogs) {d : Dialog}
    (shown : ∀ table, d = .loadPreset table → ∀ row ∈ table.rows, Proper row.name)
    (asks : ∀ question, d ≠ .confirm question) : Orderly (d :: dialogs.tail) where
  shown table member := by
    rcases List.mem_cons.mp member with same | below
    · exact shown table same.symm
    · exact orderly.tail.shown table below
  asked name member := by
    rcases List.mem_cons.mp member with same | below
    · exact absurd same.symm (asks _)
    · exact orderly.tail.asked name below
  single question member := orderly.single question member

/-- A question is put on top of dialogs of which none asks. -/
theorem ask (orderly : Orderly dialogs) {question : Question}
    (silent : ∀ other, dialogs.head? ≠ some (.confirm other))
    (named : ∀ name, question = .deletePreset name → Proper name) :
    Orderly (.confirm question :: dialogs) where
  shown table member := orderly.shown table (by simpa using member)
  asked name member := by
    rcases List.mem_cons.mp member with same | below
    · cases same
      exact named name rfl
    · exact orderly.asked name below
  single other member := by
    cases dialogs with
    | nil => cases member
    | cons d below =>
        rcases List.mem_cons.mp member with rfl | inside
        · exact silent other rfl
        · exact orderly.single other inside

end Orderly

namespace Dialog.Opens

variable {store : Store} {d : Dialog}

theorem ne_confirm (opens : d.Opens store) (question : Question) : d ≠ .confirm question := by
  rintro rfl
  cases opens

theorem proper (opens : d.Opens store) (named : ∀ name ∈ store.names, Proper name) :
    ∀ table, d = .loadPreset table → ∀ row ∈ table.rows, Proper row.name := by
  rintro table rfl row member
  cases opens with
  | loadPreset lists => exact named _ (lists row member)

end Dialog.Opens

theorem Orderly.relists {store : Store} {dialogs dialogs' : List Dialog}
    (orderly : Orderly dialogs) (relists : Relists store dialogs dialogs')
    (named : ∀ name ∈ store.names, Proper name) : Orderly dialogs' := by
  cases relists with
  | kept => exact orderly
  | filled lists =>
      have opens := Dialog.Opens.loadPreset lists
      exact orderly.cons_tail (opens.proper named) opens.ne_confirm

/-- The presets have proper names, and the dialogs are in order. -/
structure Held.Sound (h : Held) : Prop where
  named : ∀ name ∈ h.presets.names, Proper name
  orderly : Orderly h.dialogs

theorem mem_rows_of_row {table : PresetTable} {number : Int} {row : Row}
    (found : table.row number = .ok row) : row ∈ table.rows := by
  rw [PresetTable.row] at found
  generalize (if number < 0 then number + ↑table.rows.length else number) = index at found
  split at found
  · cases found
  split at found
  · rename_i there
    cases found
    exact List.mem_of_getElem? there
  · cases found

section

variable {s : Session} {action : Action} {h : Held}

/-- A dialog on top that asks or shows presets is held as it is. -/
theorem mem_held_of_mem {d : Dialog} (member : d ∈ s.dialogs) (same : d.untyped = d) :
    d ∈ s.held.dialogs := same ▸ List.mem_map_of_mem member

theorem proper_of_selects (sound : s.held.Sound) {row : Row} (selects : s.Selects row) :
    Proper row.name := by
  obtain ⟨table, below, top, found⟩ := selects
  exact sound.orderly.shown table (mem_held_of_mem (by simp [top]) rfl) row (mem_rows_of_row found)

/-- Whatever is done, names stay proper and dialogs in order. -/
theorem Effect.sound (effect : Effect s action h) (sound : s.held.Sound) : h.Sound := by
  have orderly := sound.orderly
  have named := sound.named
  cases effect with
  | quiet => exact sound
  | opens alone opens =>
      exact ⟨named, Orderly.nil.cons_tail (opens.proper named) opens.ne_confirm⟩
  | closes => exact ⟨named, orderly.tail⟩
  | @points table below top row =>
      refine ⟨named, orderly.cons_tail ?_ (by simp)⟩
      rintro _ ⟨⟩
      exact orderly.shown table (mem_held_of_mem (by simp [top]) rfl)
  | asks asks =>
      refine ⟨named, ?_⟩
      cases asks with
      | overwrite _ alone =>
          refine orderly.ask ?_ (by simp)
          simp [Session.held, alone]
      | deletePreset _ selected =>
          refine orderly.ask ?_ ?_
          · obtain ⟨table, below, top, found⟩ := selected
            simp [Session.held, top, Dialog.untyped]
          · rintro _ ⟨⟩
            exact proper_of_selects sound selected
  | writes => exact ⟨named, orderly⟩
  | overwrites => exact ⟨named, orderly.tail⟩
  | saves _ good =>
      refine ⟨fun name member => ?_, orderly.tail⟩
      rcases Store.mem_names_putFile (ne_nil_of_checkName good) member with old | rfl
      · exact named name old
      · exact checkName_of_checkName good
  | @deletes _ checked _ _ _ _ relists =>
      have left : ∀ name ∈ (s.presets.removeFile (fileOf checked)).names, Proper name :=
        fun name member => named name (Store.mem_names_removeFile member)
      exact ⟨left, orderly.tail.relists relists left⟩

end

/-! ### Runs -/

theorem dialogs_of_blank {settings : Settings} {s : Session}
    (opened : Session.blank settings = .ok s) : s.dialogs = [] := by
  obtain ⟨processes, -, opened⟩ := Attempt.exists_of_bind opened
  obtain ⟨form, -, opened⟩ := Attempt.exists_of_bind opened
  cases opened
  rfl

/-- The editor starts without dialogs. -/
theorem dialogs_of_start {settingsFile : Option (List UInt8)} {script : Text} {nesting : Nesting}
    {s : Session} (started : Session.start settingsFile script nesting = .ok s) :
    s.dialogs = [] := by
  obtain ⟨settings, -, blank, -, opened, began⟩ := exists_of_start started
  have held := Session.held_take { blank with settingsFile, nesting } (firstRefresh script)
  rw [(aside_held.firstRefresh script).same, began] at held
  have closed : s.dialogs.map Dialog.untyped = blank.dialogs.map Dialog.untyped :=
    congrArg Held.dialogs held
  rw [dialogs_of_blank opened] at closed
  exact List.map_eq_nil_iff.mp closed

/-- Runs in which all that is done is done in the editor. The history tells what was done, the last
    first, and the session in which it was done. What fails leaves what it has changed. -/
inductive Run (start : Session) : List (Session × Action) → Session → Prop
  | start : Run start [] start
  | next {history : List (Session × Action)} {s : Session} {action : Action}
      (run : Run start history s) (own : ∀ around, action ≠ .surround around) :
      Run start ((s, action) :: history) (s.next action)

/-- The question on top was asked in an earlier session. It has been on top since, and no file and
    no preset has changed. -/
structure Unanswered (history : List (Session × Action)) (s asked : Session) (question : Question) :
    Prop where
  top : s.dialogs.head? = some (.confirm question)
  opened : ∃ since opening before, history = since ++ (asked, opening) :: before ∧
    Asks asked opening question ∧
    ∀ done ∈ since, done.1.dialogs.head? = some (.confirm question)
  files : s.files = asked.files
  presets : s.presets = asked.presets

section

variable {history : List (Session × Action)} {s t : Session} {action : Action}

theorem head?_held {question : Question} :
    s.held.dialogs.head? = some (.confirm question) ↔
      s.dialogs.head? = some (.confirm question) := by
  rw [Session.held]
  cases s.dialogs with
  | nil => rfl
  | cons d below => cases d <;> simp [Dialog.untyped]

theorem Orderly.head?_tail_ne {dialogs : List Dialog} (orderly : Orderly dialogs)
    (question : Question) : dialogs.tail.head? ≠ some (.confirm question) :=
  fun top => orderly.single question (List.mem_of_head? top)

theorem Relists.head?_ne {store : Store} {dialogs dialogs' : List Dialog} {question : Question}
    (relists : Relists store dialogs dialogs')
    (silent : dialogs.head? ≠ some (.confirm question)) :
    dialogs'.head? ≠ some (.confirm question) := by
  cases relists with
  | kept => exact silent
  | filled => simp

/-- Every question on top was asked. -/
def Answerable (history : List (Session × Action)) (s : Session) : Prop :=
  ∀ question, s.dialogs.head? = some (.confirm question) →
    ∃ asked, Unanswered history s asked question

/-- A question that is on top after an action was asked by it, or was on top before. -/
theorem Effect.answerable (effect : Effect s action t.held) (orderly : Orderly s.held.dialogs)
    (answerable : Answerable history s) : Answerable ((s, action) :: history) t := by
  intro question top
  have held := head?_held.mpr top
  generalize same : t.held = h at effect held
  have files : t.files = h.files := congrArg Held.files same
  have presets : t.presets = h.presets := congrArg Held.presets same
  -- Closing a dialog brings up no question, as there is none below the top.
  cases effect with
  | quiet =>
      have before := head?_held.mp held
      obtain ⟨asked, waiting⟩ := answerable question before
      obtain ⟨since, opening, earlier, history, asks, shown⟩ := waiting.opened
      refine ⟨asked, top, ⟨(s, action) :: since, opening, earlier, ?_, asks, ?_⟩,
        files.trans waiting.files, presets.trans waiting.presets⟩
      · rw [history, List.cons_append]
      · intro done member
        rcases List.mem_cons.mp member with rfl | later
        · exact before
        · exact shown done later
  | opens _ opens => exact absurd (Option.some.inj held) (opens.ne_confirm question)
  | closes => exact absurd held (orderly.head?_tail_ne question)
  | points => cases held
  | asks asks =>
      cases held
      exact ⟨s, top, ⟨[], action, history, rfl, asks, by simp⟩, files, presets⟩
  | writes _ alone =>
      rw [Session.held, alone] at held
      cases held
  | overwrites => exact absurd held (orderly.head?_tail_ne question)
  | saves => exact absurd held (orderly.head?_tail_ne question)
  | deletes _ _ _ relists =>
      exact absurd held (relists.head?_ne (orderly.head?_tail_ne question))

/-- In every session of a run, names are proper, dialogs are in order and questions were asked. -/
theorem Run.sound {start : Session} (run : Run start history s) (closed : start.dialogs = [])
    (named : ∀ name ∈ start.presets.names, Proper name) :
    s.held.Sound ∧ Answerable history s := by
  induction run with
  | start =>
      refine ⟨⟨named, ?_⟩, ?_⟩
      · rw [Session.held, closed]
        exact .nil
      · intro question top
        rw [closed] at top
        cases top
  | @next _ s action run own ih =>
      obtain ⟨sound, answerable⟩ := ih
      have effect := effect_next s own
      exact ⟨effect.sound sound, effect.answerable sound.orderly answerable⟩

end

/-! ### What is destroyed, and when -/

/-- The action confirms a question that was asked in an earlier session. -/
structure Confirms (history : List (Session × Action)) (s : Session) (action : Action)
    (asked : Session) (question : Question) : Prop extends Unanswered history s asked question where
  pressed : action = .event (.press Widget.confirm.name)

/-- The action says that what a dialog is about is to be done. Other buttons and the commands that
    cancel and close do not. -/
inductive Action.GoesAhead : Action → Prop
  | confirm : GoesAhead (.event (.press Widget.confirm.name))
  | save {action : Action} (saves : action.Saves) : GoesAhead action

/-- What the user can rely on when an action is taken after others. -/
structure Guarded (history : List (Session × Action)) (s : Session) (action : Action) : Prop where
  /-- A preset disappears when its deletion is confirmed: of the one that was selected when the
      question came up. -/
  deleted : ∀ file, (s.presets.file? file).isSome = true →
    (s.next action).presets.file? file = none →
    ∃ asked row, asked.Selects row ∧ nameOf? file = some row.name ∧
      Confirms history s action asked (.deletePreset row.name)
  /-- A file is written over when that is confirmed: the one at the path that was entered when the
      question came up. -/
  overwritten : ∀ place bytes, s.files.node? place = some (.file bytes) →
    (s.next action).files.node? place ≠ some (.file bytes) →
    ∃ asked path, asked.enteredPath = .ok path ∧ asked.files.resolve path = .ok place ∧
      Confirms history s action asked (.overwrite path)
  /-- A deletion that is confirmed takes place. -/
  obeyed : ∀ name, s.dialogs.head? = some (.confirm (.deletePreset name)) →
    action = .event (.press Widget.confirm.name) →
    (s.next action).presets = s.presets.removeFile (fileOf name)
  /-- A dialog that is left in any other way changes no file. -/
  dismissed : s.dialogs ≠ [] → ¬ action.GoesAhead →
    (s.next action).files = s.files ∧ (s.next action).presets = s.presets

section

variable {history : List (Session × Action)} {s t : Session} {action : Action}

theorem Asks.selects {name : Text} (asks : Asks s action (.deletePreset name)) :
    ∃ row, s.Selects row ∧ row.name = name := by
  generalize same : Question.deletePreset name = question at asks
  cases asks with
  | overwrite => cases same
  | deletePreset _ selected =>
      cases same
      exact ⟨_, selected, rfl⟩

theorem Asks.entered {path : Files.Path} (asks : Asks s action (.overwrite path)) :
    s.enteredPath = .ok path := by
  cases asks with
  | overwrite _ _ entered => exact entered

/-- Confirming a deletion removes the file of the preset. -/
theorem presets_next_confirm {name : Text} (proper : Proper name)
    (top : s.dialogs.head? = some (.confirm (.deletePreset name))) :
    (s.next (.event (.press Widget.confirm.name))).presets =
      s.presets.removeFile (fileOf name) := by
  obtain ⟨below, top⟩ : ∃ below, s.dialogs = .confirm (.deletePreset name) :: below :=
    ⟨_, List.eq_cons_of_mem_head? top⟩
  have found : (find Widget.confirm.name).run s = .ok .confirm s := by
    rw [find, Step.run_bind_of_ok (Step.run_get s), Session.reachable, top]
    rfl
  have deleted : s.presets.delete name =
      .ok (s.presets.removeFile (fileOf name), (s.presets.file? (fileOf name)).isSome) := by
    rw [Store.delete, pathOf, proper]
    rfl
  have pressed : (perform (.press Widget.confirm.name)).after s =
      (deletePreset name).after (closeDialog.after s) := by
    rw [perform, Step.after_bind_of_ok found, Step.after_get_bind, top]
    exact after_closeDialog_bind _ s
  have held := Session.held_take s (perform (.press Widget.confirm.name))
  have closed : (closeDialog.after s).presets = s.presets := rfl
  rw [pressed, deletePreset, Step.after_get_bind, closed, deleted] at held
  obtain ⟨dialogs, -, listed⟩ := held_after_listPresets
    { closeDialog.after s with presets := s.presets.removeFile (fileOf name) }
  exact congrArg Held.presets (held.trans listed)

/-- A preset file that is gone is that of the question that was confirmed. -/
theorem Effect.deleted (effect : Effect s action t.held) (orderly : Orderly s.held.dialogs)
    {file : Text} (there : (s.presets.file? file).isSome = true)
    (gone : t.presets.file? file = none) : ∃ name, nameOf? file = some name ∧
      s.dialogs.head? = some (.confirm (.deletePreset name)) ∧
      action = .event (.press Widget.confirm.name) := by
  generalize same : t.held = h at effect
  have presets : t.presets = h.presets := congrArg Held.presets same
  rw [presets] at gone
  -- Presets change where one is saved, which removes none, and where one is deleted.
  cases effect with
  | @saves _ checked _ _ _ =>
      by_cases own : file = fileOf checked
      · rw [own, Store.file?_putFile_self] at gone
        cases gone
      · rw [Store.file?_putFile_of_ne _ _ _ _ own] at gone
        rw [gone] at there
        cases there
  | @deletes name checked _ pressed top good _ =>
      have proper := orderly.asked name (List.mem_of_head? (head?_held.mpr top))
      obtain rfl : checked = name := Except.ok.inj (good.symm.trans proper)
      refine ⟨checked, ?_, top, pressed⟩
      by_cases own : file = fileOf checked
      · rw [own, nameOf?_fileOf (ne_nil_of_checkName good)]
      · rw [Store.file?_removeFile_of_ne _ _ _ own] at gone
        rw [gone] at there
        cases there
  | _ =>
      have gone : s.presets.file? file = none := gone
      rw [gone] at there
      cases there

/-- A file that is changed is at the path of the question that was confirmed. -/
theorem Effect.overwritten (effect : Effect s action t.held) {place : Files.Place}
    (there : (s.files.node? place).isSome = true)
    (changed : t.files.node? place ≠ s.files.node? place) : ∃ path,
      s.files.resolve path = .ok place ∧
      s.dialogs.head? = some (.confirm (.overwrite path)) ∧
      action = .event (.press Widget.confirm.name) := by
  generalize same : t.held = h at effect
  have files : t.files = h.files := congrArg Held.files same
  rw [files] at changed
  cases effect with
  | @writes path _ _ _ _ free written =>
      have resolved := Files.Tree.resolve_of_writeBytes written changed
      rw [Files.Tree.exists?, resolved] at free
      have empty := Except.ok.inj free
      rw [there] at empty
      cases empty
  | @overwrites path _ _ pressed top written =>
      exact ⟨path, Files.Tree.resolve_of_writeBytes written changed, top, pressed⟩
  | _ => exact absurd rfl changed

/-- While a dialog is open, nothing changes unless its user goes ahead. -/
theorem Effect.dismissed (effect : Effect s action t.held) (busy : s.dialogs ≠ [])
    (left : ¬ action.GoesAhead) : t.files = s.files ∧ t.presets = s.presets := by
  generalize same : t.held = h at effect
  have files : t.files = h.files := congrArg Held.files same
  have presets : t.presets = h.presets := congrArg Held.presets same
  cases effect with
  | writes _ alone => exact absurd alone busy
  | overwrites pressed => exact absurd (pressed ▸ .confirm) left
  | saves saves => exact absurd (.save saves) left
  | deletes pressed => exact absurd (pressed ▸ .confirm) left
  | _ => exact ⟨files, presets⟩

end

/-- **Nothing is destroyed without a confirmation.** In every run of the editor over presets with
    proper names, a preset is deleted and a file written over only when the question about it is
    answered, and dialogs that are left otherwise change nothing. -/
theorem guarded_of_run {start s : Session} {history : List (Session × Action)} {action : Action}
    (closed : start.dialogs = []) (named : ∀ name ∈ start.presets.names, Proper name)
    (run : Run start history s) (own : ∀ around, action ≠ .surround around) :
    Guarded history s action := by
  obtain ⟨sound, answerable⟩ := run.sound closed named
  have effect := effect_next s own
  refine ⟨fun file there gone => ?_, fun place bytes there changed => ?_,
    fun name top pressed => ?_, effect.dismissed⟩
  · obtain ⟨name, told, top, pressed⟩ := effect.deleted sound.orderly there gone
    obtain ⟨asked, waiting⟩ := answerable _ top
    obtain ⟨since, opening, before, _, asks, _⟩ := waiting.opened
    obtain ⟨row, selected, rfl⟩ := asks.selects
    exact ⟨asked, row, selected, told, waiting, pressed⟩
  · rw [← there] at changed
    obtain ⟨path, resolved, top, pressed⟩ := effect.overwritten (by rw [there]; rfl) changed
    obtain ⟨asked, waiting⟩ := answerable _ top
    obtain ⟨since, opening, before, _, asks, _⟩ := waiting.opened
    exact ⟨asked, path, asks.entered, waiting.files ▸ resolved, waiting, pressed⟩
  · have proper := sound.orderly.asked name (List.mem_of_head? (head?_held.mpr top))
    rw [pressed]
    exact presets_next_confirm proper top

/-- The start with a preset in the directory. -/
def onePreset : Session := withPresets [("a.json", sizePreset "1")]

/-- The presets are listed. -/
def choosing : Session := onePreset.next (.event (.call "load_preset" []))

/-- The user is asked whether the preset is to be deleted. -/
def asking : Session := choosing.next (.event (.call "delete_preset" []))

/-- What was done until then, the last first. -/
def askingHistory : List (Session × Action) :=
  [(choosing, .event (.call "delete_preset" [])), (onePreset, .event (.call "load_preset" []))]

/-- The preset disappears once its deletion is confirmed. -/
theorem guarded_asking :
    onePreset.dialogs = [] ∧ (∀ name ∈ onePreset.presets.names, Proper name) ∧
      Run onePreset askingHistory asking ∧
      Guarded askingHistory asking (.event (.press "confirm-yes")) ∧
      (asking.presets.file? "a.json").isSome = true ∧
      (asking.next (.event (.press "confirm-yes"))).presets.file? "a.json" = none := by
  have started : plainStart.dialogs = [] :=
    dialogs_of_start (Attempt.ok_of_toOption (Option.some_get _).symm)
  have closed : onePreset.dialogs = [] := by
    rw [onePreset, withPresets]
    generalize plainStart = s at started
    exact started
  have named : ∀ name ∈ onePreset.presets.names, Proper name := by decide +kernel
  have chosen : Run onePreset [(onePreset, .event (.call "load_preset" []))] choosing :=
    .next .start fun _ => Action.noConfusion
  have run : Run onePreset askingHistory asking := .next chosen fun _ => Action.noConfusion
  exact ⟨closed, named, run, guarded_of_run closed named run fun _ => Action.noConfusion,
    by decide +kernel, by decide +kernel⟩

end Editor

end ClusterPrep
