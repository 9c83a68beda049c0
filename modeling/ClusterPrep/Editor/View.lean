import ClusterPrep.Editor.Widget

set_option autoImplicit false

/-
  What the parts of the screen show.
-/
namespace ClusterPrep.Editor

/-- What a part of the screen shows. -/
inductive Content
  | text (s : Text)
  | styled (t : Display.Styled)
  /-- The value in a line or of a choice. -/
  | value (v : Value)
  /-- The items of a log. -/
  | log (items : List Display.Styled)
  | hint (h : Hint)
  | table (t : PresetTable)

/-- A text without style. -/
def plain (s : Text) : Display.Styled := { plain := s }

/-- What a line or a choice shows; nothing before anything is entered or chosen. -/
def valueContent? : Value → Option Content
  | .null => none
  | v => some (.value v)

/-- What a part of the panels shows; nothing for the links to help and for frames. -/
def Session.panelContent? (s : Session) : Widget → Option Content
  | .tabs => valueContent? s.tab
  | .scriptPath => valueContent? s.converter.path
  | .loadScript => some (.text "Load")
  | .script => some (.text s.converter.script)
  | .scriptPreview => some (.log s.converter.preview.toList)
  | .copyScript => some (.text "Copy to Clipboard (Ctrl+Y)")
  | .scriptStatus => some (.text s.converter.status)
  | .processes => valueContent? s.builder.processes
  | .suggestGrid => some (.text "Suggest P x Q (Ctrl+G)")
  | .nearby => some (.styled s.builder.nearby)
  | .memory => valueContent? s.builder.memory
  | .suggestSize => some (.text "Suggest N")
  | .place slot => valueContent? (s.builder.form.entry slot)
  | .importForm => some (.text "Import HPL.dat (F2)")
  | .outputPath => valueContent? s.builder.path
  | .writeFile => some (.text "Write HPL.dat")
  | .savePreset => some (.text "Save as Preset (Ctrl+T)")
  | .loadPreset => some (.text "Load Preset (Ctrl+L)")
  | .formPreview => some (.log (s.builder.preview.toList.map plain))
  | .formStatus => some (.text s.builder.status)
  | _ => none

/-- What a part of a dialog shows. -/
def Dialog.content? : Dialog → Widget → Option Content
  | .help title _, .helpTitle => some (.text title)
  | .help _ body, .helpBody => some (.text body)
  | .help .., .closeHelp => some (.text "Close")
  | .importText _, .importTitle => some (.text "Paste HPL.dat contents")
  | .importText content, .importContent => some (.text content)
  | .importText _, .acceptImport => some (.text "Import")
  | .importText _, .cancelImport => some (.text "Cancel")
  | .savePreset .., .saveTitle => some (.text "Save HPL preset")
  | .savePreset name _, .presetName => valueContent? name
  | .savePreset _ hint, .saveHint => some (.hint hint)
  | .savePreset .., .acceptSave => some (.text "Save")
  | .savePreset .., .cancelSave => some (.text "Cancel")
  | .loadPreset _, .loadTitle => some (.text "Load HPL preset")
  | .loadPreset table, .presetTable => some (.table table)
  | .loadPreset table, .loadStatus => some (.text table.status)
  | .loadPreset _, .acceptLoad => some (.text "Load")
  | .loadPreset _, .deletePreset => some (.text "Delete")
  | .loadPreset _, .cancelLoad => some (.text "Cancel")
  | .confirm question, .question => some (.text question.message)
  | .confirm question, .confirm => some (.text question.confirmLabel)
  | .confirm _, .decline => some (.text "Cancel")
  | _, _ => none

private def contents (parts : List Widget) (content? : Widget → Option Content) :
    List (Widget × Content) :=
  parts.filterMap fun w => (content? w).map fun c => (w, c)

/-- All parts of the screen and what they show, the panels first and the top dialog last. -/
def Session.contents (s : Session) : List (Widget × Content) :=
  Editor.contents Widget.ofPanels s.panelContent? ++
    s.dialogs.reverse.flatMap fun d => Editor.contents (Widget.ofDialog d) d.content?

/-- The columns of the table of presets. -/
def PresetTable.columns : List String := ["Name", "Ns", "NBs", "P x Q", "Check"]

/-- The cells of a row. -/
def Row.cells (row : Row) : List Display.Styled :=
  let name := plain (Display.visible row.name)
  match row.content with
  | .unreadable => [name, plain [], plain [], plain [], .of "unreadable" "red"]
  | .readable ns nbs grids problem =>
    let check := match problem with
      | none => .of "ok" "green"
      | some p => .of p "yellow"
    [name] ++ [ns, nbs, grids].map (plain ∘ Display.visible) ++ [check]

end ClusterPrep.Editor
