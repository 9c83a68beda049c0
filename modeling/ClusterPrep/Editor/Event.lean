import ClusterPrep.Editor.PresetSteps
import ClusterPrep.Editor.ScriptSteps
import ClusterPrep.Editor.Widget

set_option autoImplicit false

/-
  What reaches the editor from its user, and what the editor does. While a dialog is open, its
  parts alone can be reached.
-/
namespace ClusterPrep.Editor

/-- The commands that keys call. -/
inductive Command
  | loadScript | copyScript | suggestGrid | suggestSize | importForm | writeFile | savePreset
  | loadPreset | reloadSettings
  | switchTab (tab : Value)
  | cancel | close | deletePreset

namespace Command

/-- The command of a name and arguments, if there is one of that name. -/
def ofName? (name : Text) (args : List Value) : Option Command :=
  match name.string with
  | "load_file" => some loadScript
  | "copy_output" => some copyScript
  | "suggest_grid" => some suggestGrid
  | "suggest_n" => some suggestSize
  | "import" => some importForm
  | "write_file" => some writeFile
  | "save_preset" => some savePreset
  | "load_preset" => some loadPreset
  | "reload_config" => some reloadSettings
  | "switch_tab" => some (switchTab (args.headD .null))
  | "cancel" => some cancel
  | "close" => some close
  | "delete_preset" => some deletePreset
  | _ => none

/-- The number of arguments that a command takes. -/
def argumentCount : Command → Nat
  | switchTab _ => 1
  | _ => 0

end Command

/-- What a user does. -/
inductive Event
  /-- Enter a value into a line, or choose a code. -/
  | enter (widget : Text) (v : Value)
  /-- Put a text into an area of several lines. -/
  | paste (widget content : Text)
  | press (button : Text)
  /-- End the entry of a line. -/
  | submit (widget : Text)
  | click (widget : Option Text)
  | moveCursor (row : Int)
  | selectRow (row : Int)
  | call (command : Text) (args : List Value)
  /-- Let the delays of all timers pass. -/
  | wait

/-- Read the settings again. -/
def reloadSettings : Step Unit := do
  let s ← get
  let (settings, _) ← Step.ofAttempt (Settings.load s.settingsFile s.nesting)
  modify fun s => { s with settings, notes := s.notes ++ ["Configuration reloaded"] }

/-- Show the help on a field. -/
def openHelp (field : Hpl.Field) : Step Unit :=
  openDialog (.help field.help.1 field.help.2)

/-- A value was entered into a line or set as a choice. A value equal to the one that stands there
    is no edit. -/
def onEnter (v : Value) : Widget → Step Unit
  | .scriptPath => setConverter fun p => { p with path := p.path.replacedBy v }
  | .processes => enterProcesses v
  | .memory => setBuilder fun p => { p with memory := p.memory.replacedBy v }
  | .place slot => enterAt slot v
  | .outputPath => setBuilder fun p => { p with path := p.path.replacedBy v }
  | .presetName => do
    match (← get).dialogs with
    | .savePreset name hint :: _ =>
      if !v.same name then
        setDialog (.savePreset v hint)
        noteChange .presetName
    | _ => return
  | _ => return

/-- A text was put into an area of several lines, which always counts as an edit. -/
def onPaste (content : Text) : Widget → Step Unit
  | .script => enterScript content
  | .importContent => setDialog (.importText content)
  | _ => return

/-- A button in a dialog is pressed. Any that does not go ahead closes the dialog. -/
def onDialogPress (d : Dialog) (button : Widget) : Step Unit :=
  match d, button with
  | .help .., .closeHelp => closeDialog
  | .help .., _ => return
  | .importText content, .acceptImport => do
    closeDialog
    importText content
  | .savePreset name _, .acceptSave => submitName name
  | .loadPreset table, .acceptLoad => do
    match ← Step.ofAttempt table.selected with
    | some name => closeAndLoad name
    | none => return
  | .loadPreset table, .deletePreset => askToDelete table
  | .confirm question, .confirm => do
    closeDialog
    confirmed question
  | _, _ => closeDialog

/-- What a command does while no dialog is open, if it does something then. -/
def onPanelCommand : Command → Option (Step Unit)
  | .loadScript => some loadScript
  | .copyScript => some copyScript
  | .suggestGrid => some suggestGrid
  | .suggestSize => some suggestSize
  | .importForm => some (openDialog (.importText []))
  | .writeFile => some startWriting
  | .savePreset => some (openDialog (.savePreset (.text []) {}))
  | .loadPreset => some choosePreset
  | .reloadSettings => some reloadSettings
  | .switchTab tab => some (modify fun s => { s with tab })
  | .cancel | .close | .deletePreset => none

/-- What a command does while a dialog is on top, if it does something there. -/
def onDialogCommand : Dialog → Command → Option (Step Unit)
  | .help .., .close => some closeDialog
  | .help .., _ => none
  | _, .cancel => some closeDialog
  | .loadPreset table, .deletePreset => some (askToDelete table)
  | _, _ => none

/-- What a command does, if it does something. -/
def onCommand (dialogs : List Dialog) (command : Command) : Option (Step Unit) :=
  match dialogs with
  | [] => onPanelCommand command
  | d :: _ => onDialogCommand d command

/-- A button of the panels was pressed. -/
def onPanelPress : Widget → Step Unit
  | .loadScript => loadScript
  | .copyScript => copyScript
  | .suggestGrid => suggestGrid
  | .suggestSize => suggestSize
  | .importForm => openDialog (.importText [])
  | .writeFile => startWriting
  | .savePreset => openDialog (.savePreset (.text []) {})
  | .loadPreset => choosePreset
  | _ => return

/-- Call a command by name. -/
def callCommand (name : Text) (args : List Value) : Step Unit := do
  let dialogs := (← get).dialogs
  match Command.ofName? name args with
  | none => throw (.noCommand name)
  | some command =>
    match onCommand dialogs command with
    | none => throw (.noCommand name)
    | some step =>
      if args.length = command.argumentCount then step
      else throw (.wrongCount name command.argumentCount args.length)

/-- Do something with the table of presets, which has to be in the top dialog. -/
def withTable (f : PresetTable → Step Unit) : Step Unit := do
  match (← get).dialogs with
  | .loadPreset table :: _ => f table
  | _ => throw (.noWidget Widget.presetTable.name)

/-- Do what an event asks for. -/
def perform : Event → Step Unit
  | .enter widget v => do onEnter v (← find widget)
  | .paste widget content => do onPaste content (← find widget)
  | .press button => do
    let w ← find button
    match (← get).dialogs with
    | [] => onPanelPress w
    | d :: _ => onDialogPress d w
  | .submit widget => do
    let _ ← find widget
    match (← get).dialogs with
    | .savePreset name _ :: _ => submitName name
    | _ => return
  | .click none => return
  | .click (some widget) => do
    match ← find widget with
    | .helpLink field => openHelp field
    | _ => return
  | .moveCursor row => withTable fun table => setDialog (.loadPreset { table with cursor := row })
  | .selectRow row => withTable fun table => do
    closeAndLoad (← Step.ofAttempt (table.row row)).name
  | .call name args => callCommand name args
  | .wait => passTime

end ClusterPrep.Editor
