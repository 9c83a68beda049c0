import ClusterPrep.Editor.Session

set_option autoImplicit false

/-
  The parts of the screen, by the names under which the user's events reach them.
-/
namespace ClusterPrep.Editor

/-- A frame that lays other parts of the screen out. -/
inductive Frame
  | converter | converterColumns | scriptColumn | scriptPathRow | outputColumn
  | builder | builderColumns | formColumn | previewColumn
  | helpBox
  | confirmBox | confirmButtons
  | importBox | importButtons
  | saveBox | saveButtons
  | loadBox | loadButtons
deriving DecidableEq, Repr

/-- The name of a frame. -/
def Frame.name : Frame → Text
  | converter => "converter"
  | converterColumns => "converter-grid"
  | scriptColumn => "converter-input-pane"
  | scriptPathRow => "converter-file-row"
  | outputColumn => "converter-output-pane"
  | builder => "hpl"
  | builderColumns => "hpl-grid"
  | formColumn => "hpl-form"
  | previewColumn => "hpl-preview-pane"
  | helpBox => "help-dialog"
  | confirmBox => "confirm-dialog"
  | confirmButtons => "confirm-buttons"
  | importBox => "import-dialog"
  | importButtons => "import-buttons"
  | saveBox => "save-dialog"
  | saveButtons => "save-buttons"
  | loadBox => "load-dialog"
  | loadButtons => "load-buttons"

/-- A part of the screen. -/
inductive Widget
  | frame (f : Frame)
  | tabs
  | scriptPath | loadScript | script | scriptPreview | copyScript | scriptStatus
  | processes | suggestGrid | nearby | memory | suggestSize
  | place (slot : Slot)
  | helpLink (field : Hpl.Field)
  | importForm | outputPath | writeFile | savePreset | loadPreset | formPreview | formStatus
  | helpTitle | helpBody | closeHelp
  | question | confirm | decline
  | importTitle | importContent | acceptImport | cancelImport
  | saveTitle | presetName | saveHint | acceptSave | cancelSave
  | loadTitle | presetTable | loadStatus | acceptLoad | deletePreset | cancelLoad
deriving DecidableEq, Repr

namespace Widget

/-- The name of a part. -/
def name : Widget → Text
  | frame f => f.name
  | tabs => "tabs"
  | scriptPath => "input-pbs-path"
  | loadScript => "btn-load-pbs"
  | script => "pbs-input"
  | scriptPreview => "slurm-preview"
  | copyScript => "btn-copy-slurm"
  | scriptStatus => "converter-status"
  | processes => "input-procs"
  | suggestGrid => "btn-suggest-grid"
  | nearby => "grid-nearby"
  | memory => "input-memory-gb"
  | suggestSize => "btn-suggest-n"
  | place slot => "hpl-" ++ slot.field.key
  | helpLink field => "help-" ++ field.key
  | importForm => "btn-import"
  | outputPath => "input-hpl-path"
  | writeFile => "btn-write-hpl"
  | savePreset => "btn-save-preset"
  | loadPreset => "btn-load-preset"
  | formPreview => "hpl-preview"
  | formStatus => "hpl-status"
  | helpTitle => "help-title"
  | helpBody => "help-body"
  | closeHelp => "btn-close-help"
  | question => "confirm-message"
  | confirm => "confirm-yes"
  | decline => "confirm-no"
  | importTitle => "import-title"
  | importContent => "import-text"
  | acceptImport => "btn-import-ok"
  | cancelImport => "btn-import-cancel"
  | saveTitle => "save-title"
  | presetName => "save-input"
  | saveHint => "save-hint"
  | acceptSave => "btn-save"
  | cancelSave => "btn-save-cancel"
  | loadTitle => "load-title"
  | presetTable => "preset-table"
  | loadStatus => "load-status"
  | acceptLoad => "btn-load"
  | deletePreset => "btn-delete"
  | cancelLoad => "btn-load-cancel"

/-- The parts of the panels. -/
def ofPanels : List Widget :=
  [Frame.converter, .converterColumns, .scriptColumn, .scriptPathRow, .outputColumn, .builder,
    .builderColumns, .formColumn, .previewColumn].map frame ++
  [tabs, scriptPath, loadScript, script, scriptPreview, copyScript, scriptStatus, processes,
    suggestGrid, nearby, memory, suggestSize] ++
  Slot.all.map place ++ Hpl.Field.all.map helpLink ++
  [importForm, outputPath, writeFile, savePreset, loadPreset, formPreview, formStatus]

/-- The parts of a dialog. -/
def ofDialog : Dialog → List Widget
  | .help .. => [frame .helpBox, helpTitle, helpBody, closeHelp]
  | .importText _ => [frame .importBox, frame .importButtons, importTitle, importContent,
    acceptImport, cancelImport]
  | .savePreset .. => [frame .saveBox, frame .saveButtons, saveTitle, presetName, saveHint,
    acceptSave, cancelSave]
  | .loadPreset _ => [frame .loadBox, frame .loadButtons, loadTitle, presetTable, loadStatus,
    acceptLoad, deletePreset, cancelLoad]
  | .confirm _ => [frame .confirmBox, frame .confirmButtons, question, confirm, decline]

end Widget

/-- The parts that events reach: those of the top dialog if one is open. -/
def Session.reachable (s : Session) : List Widget :=
  match s.dialogs with
  | [] => Widget.ofPanels
  | d :: _ => Widget.ofDialog d

/-- The part of a name. -/
def find (name : Text) : Step Widget := do
  match (← get).reachable.find? (·.name == name) with
  | some w => return w
  | none => throw (.noWidget name)

end ClusterPrep.Editor
