import ClusterPrep.Batch.Directive
import ClusterPrep.Batch.Resources
import ClusterPrep.Batch.Script
import ClusterPrep.Batch.Summary
import ClusterPrep.CommandLine.GridReport
import ClusterPrep.CommandLine.Options
import ClusterPrep.CommandLine.Run
import ClusterPrep.Display.Grid
import ClusterPrep.Display.Markup
import ClusterPrep.Display.Script
import ClusterPrep.Display.Styled
import ClusterPrep.Editor.Dialog
import ClusterPrep.Editor.Event
import ClusterPrep.Editor.Form
import ClusterPrep.Editor.FormSteps
import ClusterPrep.Editor.PresetSteps
import ClusterPrep.Editor.Preview
import ClusterPrep.Editor.ScriptSteps
import ClusterPrep.Editor.Session
import ClusterPrep.Editor.Start
import ClusterPrep.Editor.Timer
import ClusterPrep.Editor.View
import ClusterPrep.Editor.Widget
import ClusterPrep.Failure
import ClusterPrep.Files.Path
import ClusterPrep.Files.Tree
import ClusterPrep.Grid.AnyCount
import ClusterPrep.Grid.Nearby
import ClusterPrep.Grid.Shape
import ClusterPrep.Hpl.Catalog
import ClusterPrep.Hpl.Check
import ClusterPrep.Hpl.Config
import ClusterPrep.Hpl.Label
import ClusterPrep.Hpl.Layout
import ClusterPrep.Hpl.Reader
import ClusterPrep.Hpl.Schema
import ClusterPrep.Hpl.Size
import ClusterPrep.Hpl.Token
import ClusterPrep.Hpl.Writer
import ClusterPrep.Json.Reader
import ClusterPrep.Json.Writer
import ClusterPrep.Main
import ClusterPrep.Nesting
import ClusterPrep.Number.Basic
import ClusterPrep.Number.Binary64
import ClusterPrep.Number.Numeral
import ClusterPrep.Number.Rounding
import ClusterPrep.Number.Shortest
import ClusterPrep.Order.Insertion
import ClusterPrep.Preset.Builtin
import ClusterPrep.Preset.Name
import ClusterPrep.Preset.Store
import ClusterPrep.Proofs.Attempt
import ClusterPrep.Proofs.Batch.Convert
import ClusterPrep.Proofs.Batch.Header
import ClusterPrep.Proofs.Batch.Markers
import ClusterPrep.Proofs.Batch.Options
import ClusterPrep.Proofs.Batch.Requests
import ClusterPrep.Proofs.Batch.Summary
import ClusterPrep.Proofs.Batch.Variables
import ClusterPrep.Proofs.Display.Script
import ClusterPrep.Proofs.Editor.Announcing
import ClusterPrep.Proofs.Editor.CopyScript
import ClusterPrep.Proofs.Editor.Effects
import ClusterPrep.Proofs.Editor.Entering
import ClusterPrep.Proofs.Editor.Filling
import ClusterPrep.Proofs.Editor.Followed
import ClusterPrep.Proofs.Editor.Forgetting
import ClusterPrep.Proofs.Editor.Form
import ClusterPrep.Proofs.Editor.Importing
import ClusterPrep.Proofs.Editor.LayingOut
import ClusterPrep.Proofs.Editor.OddValues
import ClusterPrep.Proofs.Editor.OneTimer
import ClusterPrep.Proofs.Editor.PresetTable
import ClusterPrep.Proofs.Editor.Previews
import ClusterPrep.Proofs.Editor.Quiet
import ClusterPrep.Proofs.Editor.Reading
import ClusterPrep.Proofs.Editor.Ready
import ClusterPrep.Proofs.Editor.Refresh
import ClusterPrep.Proofs.Editor.Refusing
import ClusterPrep.Proofs.Editor.Reloading
import ClusterPrep.Proofs.Editor.Rendering
import ClusterPrep.Proofs.Editor.Runs
import ClusterPrep.Proofs.Editor.Safeguards
import ClusterPrep.Proofs.Editor.Sizing
import ClusterPrep.Proofs.Editor.StepRules
import ClusterPrep.Proofs.Editor.Suggesting
import ClusterPrep.Proofs.Editor.Timers
import ClusterPrep.Proofs.Editor.Unchanged
import ClusterPrep.Proofs.Editor.WriteFile
import ClusterPrep.Proofs.Files.Tree
import ClusterPrep.Proofs.Grid.Ranking
import ClusterPrep.Proofs.Grid.Squarest
import ClusterPrep.Proofs.Grid.Tolerance
import ClusterPrep.Proofs.Hpl.Check
import ClusterPrep.Proofs.Hpl.Fields
import ClusterPrep.Proofs.Hpl.GreatestSize
import ClusterPrep.Proofs.Hpl.Layout
import ClusterPrep.Proofs.Hpl.Lines
import ClusterPrep.Proofs.Hpl.Readable
import ClusterPrep.Proofs.Hpl.Reread
import ClusterPrep.Proofs.Hpl.RoundTrip
import ClusterPrep.Proofs.Hpl.Sanity
import ClusterPrep.Proofs.Hpl.Size
import ClusterPrep.Proofs.Hpl.Slots
import ClusterPrep.Proofs.Hpl.Token
import ClusterPrep.Proofs.Json.Literal
import ClusterPrep.Proofs.Json.Numbers
import ClusterPrep.Proofs.Json.RoundTrip
import ClusterPrep.Proofs.Json.Strings
import ClusterPrep.Proofs.Number.Difference
import ClusterPrep.Proofs.Number.Digits
import ClusterPrep.Proofs.Number.ExactRounding
import ClusterPrep.Proofs.Number.Order
import ClusterPrep.Proofs.Number.Product
import ClusterPrep.Proofs.Number.Range
import ClusterPrep.Proofs.Number.ReadBack
import ClusterPrep.Proofs.Number.Roundoff
import ClusterPrep.Proofs.Number.Scaling
import ClusterPrep.Proofs.Number.WholeNumerals
import ClusterPrep.Proofs.Number.WholeReals
import ClusterPrep.Proofs.Order.Insertion
import ClusterPrep.Proofs.Preset.Calls
import ClusterPrep.Proofs.Preset.Content
import ClusterPrep.Proofs.Preset.Directory
import ClusterPrep.Proofs.Preset.FileName
import ClusterPrep.Proofs.Preset.Loading
import ClusterPrep.Proofs.Preset.Name
import ClusterPrep.Proofs.Quantity.Count
import ClusterPrep.Proofs.Quantity.Megabytes
import ClusterPrep.Proofs.Quantity.Memory
import ClusterPrep.Proofs.Quantity.TimeForms
import ClusterPrep.Proofs.Quantity.Walltime
import ClusterPrep.Proofs.Settings.Loading
import ClusterPrep.Proofs.Settings.Values
import ClusterPrep.Proofs.Text.Ascii
import ClusterPrep.Proofs.Text.Lines
import ClusterPrep.Proofs.Text.Plain
import ClusterPrep.Proofs.Text.Replacing
import ClusterPrep.Proofs.Text.Words
import ClusterPrep.Quantity.Count
import ClusterPrep.Quantity.Memory
import ClusterPrep.Quantity.Walltime
import ClusterPrep.Settings.Basic
import ClusterPrep.Settings.Loader
import ClusterPrep.Settings.Notice
import ClusterPrep.Text.Basic
import ClusterPrep.Text.Blank
import ClusterPrep.Text.CodePoint
import ClusterPrep.Text.Digit
import ClusterPrep.Text.LetterCase
import ClusterPrep.Text.Printable
import ClusterPrep.Text.Quoted
import ClusterPrep.Text.Search
import ClusterPrep.Text.Utf8
import ClusterPrep.Toml.Document
import ClusterPrep.Toml.Reader
import ClusterPrep.Toml.Scalar
import ClusterPrep.Value.Basic
import ClusterPrep.Value.Printer
