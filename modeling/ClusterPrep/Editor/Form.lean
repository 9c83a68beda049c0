import ClusterPrep.Hpl.Catalog
import ClusterPrep.Quantity.Count
import ClusterPrep.Settings.Basic

set_option autoImplicit false

/-
  The form of a configuration: an entry for every field, which is a text where the field is typed in
  and a code where it is chosen. Filling the form from a configuration and reading it back go field
  by field, in the order of the file.
-/
namespace ClusterPrep.Editor

/-- The fields that are chosen from codes. -/
inductive Coded
  | outDevice | pmap | swap | l1 | u | equilibration
deriving DecidableEq, Repr

/-- The fields that hold one typed number. -/
inductive Amount
  | threshold | swappingThreshold | alignment
deriving DecidableEq, Repr

/-- The places of the form. -/
inductive Slot
  | outFile
  | coded (f : Coded)
  | amount (f : Amount)
  | list (f : Hpl.Multi)
deriving DecidableEq, Repr

/-- The field of a chosen code. -/
def Coded.single : Coded → Hpl.Single
  | .outDevice => .outDevice
  | .pmap => .pmap
  | .swap => .swap
  | .l1 => .l1
  | .u => .u
  | .equilibration => .equilibration

/-- The field of a typed number. -/
def Amount.single : Amount → Hpl.Single
  | .threshold => .threshold
  | .swappingThreshold => .swappingThreshold
  | .alignment => .alignment

/-- The field that a place of the form is for. -/
def Slot.field : Slot → Hpl.Field
  | .outFile => .single .outFile
  | .coded f => .single f.single
  | .amount f => .single f.single
  | .list f => .multi f

/-- The places of the form, from the top. -/
def Slot.all : List Slot := [
  .outFile, .coded .outDevice, .list .ns, .list .nbs, .coded .pmap, .list .ps, .list .qs,
  .amount .threshold, .list .pfacts, .list .nbmins, .list .ndivs, .list .rfacts, .list .bcasts,
  .list .depths, .coded .swap, .amount .swappingThreshold, .coded .l1, .coded .u,
  .coded .equilibration, .amount .alignment]

/-- Every field has its place, in the order of the file. -/
theorem Slot.all_field : Slot.all.map Slot.field = Hpl.Field.all := rfl

/-- The codes to choose from. -/
def Coded.codes (f : Coded) : List Int := (Hpl.Field.single f.single).codes.map Prod.fst

/-- The label beside a place. -/
def Slot.label (s : Slot) : String := s.field.label

/-- What a place holds before the form is filled. -/
def Slot.emptyEntry : Slot → Value
  | .coded f => ({} : Hpl.Config).single f.single
  | _ => .text []

/-- What the form holds. -/
structure Form where
  entry : Slot → Value := Slot.emptyEntry

namespace Form

/-- The form with a value at a place. -/
def set (form : Form) (slot : Slot) (v : Value) : Form :=
  { entry := fun other => if other = slot then v else form.entry other }

@[simp] theorem entry_set_self (form : Form) (slot : Slot) (v : Value) :
    (form.set slot v).entry slot = v := by
  simp [set]

theorem entry_set_of_ne (form : Form) (slot other : Slot) (v : Value) (h : other ≠ slot) :
    (form.set slot v).entry other = form.entry other := by
  simp [set, h]

/-- The name that a text gives for the output file: its first word. -/
def fileName (s : Text) : Value :=
  match Text.words s with
  | [] => .null
  | w :: _ => .text w

/-- The numbers typed at a place. -/
def numbers (label : String) (s : Text) : Attempt (List Number) :=
  match Count.readList (Text.strip s) with
  | .ok ns => return ns
  | .error e => throw (.field label e)

/-- The value that stands at a place. -/
def value (form : Form) (slot : Slot) : Attempt Value :=
  match slot with
  | .outFile => return fileName (← (form.entry slot).asText)
  | .coded _ =>
    match form.entry slot with
    | .null => throw (.notChosen slot.label)
    | v => return v
  | .amount _ => do
    match ← numbers slot.label (← (form.entry slot).asText) with
    | [n] => return .ofNumber n
    | _ => throw (.notSingle slot.label)
  | .list _ => return .list ((← numbers slot.label (← (form.entry slot).asText)).map .ofNumber)

/-- The configuration that the form holds, unless some place does not hold a value. -/
def config (form : Form) : Attempt Hpl.Config :=
  Slot.all.foldlM (fun c slot => return c.set (← form.value slot) slot.field) {}

/-- The text for a value; none for no value. -/
def valueText : Value → Attempt Text
  | .null => return []
  | v => v.shown

/-- Whether a value is one of some codes. Lists and tables cannot be looked up. -/
def isCode (codes : List Int) (v : Value) : Attempt Bool :=
  match v with
  | .list _ | .table _ => throw (.unhashable v.kindName)
  | v => return codes.any fun i => v.same (.int i)

/-- What a place is filled with from a configuration; nothing if the value there is no code of the
    place. -/
def filling (c : Hpl.Config) : Slot → Attempt (Option Value)
  | .outFile => return some (.text (← valueText c.outFile))
  | .coded f => do
    let v := c.single f.single
    return if ← isCode f.codes v then some v else none
  | .amount f => return some (.text (← valueText (c.single f.single)))
  | .list f => return some (.text (← Value.shownAll (c.multi f)))

/-- Filling a place leaves the form as it is if the value is no code of the place. -/
inductive Filled
  | skipped
  | unchanged
  | changed (form : Form)

/-- Fill a place from a configuration. A value equal to the one that stands there does not replace
    it. -/
def fillSlot (form : Form) (c : Hpl.Config) (slot : Slot) : Attempt Filled := do
  match ← filling c slot with
  | none => return .skipped
  | some v =>
    if v.same (form.entry slot) then return .unchanged else return .changed (form.set slot v)

/-- The form filled from a configuration as far as its values are codes of their places. -/
def fill (form : Form) (c : Hpl.Config) : Attempt Form :=
  Slot.all.foldlM (fun form slot => do
    match ← form.fillSlot c slot with
    | .changed form => return form
    | _ => return form) form

end Form

end ClusterPrep.Editor
