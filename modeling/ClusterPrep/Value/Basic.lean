import ClusterPrep.Number.Basic

set_option autoImplicit false

/-
  The values that a field may hold when it comes from a file: nothing checks their kind. Whole
  numbers and reals are told apart, and truth values count as the whole numbers 0 and 1 wherever a
  number is wanted.
-/
namespace ClusterPrep

/-- A point in time as a settings file writes it. -/
inductive Moment
  | date (year month day : Nat)
  | clock (hour minute second micro : Nat)
  | dateTime (year month day hour minute second micro : Nat) (offset : Option Int)
deriving DecidableEq

/-- A value. A table keeps its keys, all different, in the order in which they were first set. -/
inductive Value
  | null
  | bool (b : Bool)
  | int (i : Int)
  | real (x : Binary64)
  | text (s : Text)
  | moment (m : Moment)
  | list (items : List Value)
  | table (fields : List (Text × Value))

namespace Value

instance : Inhabited Value := ⟨null⟩

/-- The number that a value is or counts as. -/
def number? : Value → Option Number
  | bool b => some (.int (if b then 1 else 0))
  | int i => some (.int i)
  | real x => some (.real x)
  | _ => none

def ofNumber : Number → Value
  | .int i => int i
  | .real x => real x

/-- The word for a value's kind. -/
def kindName : Value → String
  | null => "NoneType"
  | bool _ => "bool"
  | int _ => "int"
  | real _ => "float"
  | text _ => "str"
  | moment (.date ..) => "datetime.date"
  | moment (.clock ..) => "datetime.time"
  | moment (.dateTime ..) => "datetime.datetime"
  | list _ => "list"
  | table _ => "dict"

/-- The whole number that a value is or counts as. -/
def wholeNumber (v : Value) : Attempt Int :=
  match v.number? with
  | some (.int i) => return i
  | _ => throw (.notIntegral v.kindName)

/-- The text that a value is. -/
def asText : Value → Attempt Text
  | text s => return s
  | v => throw (.notText v.kindName)

/-- Whether a value counts as set: zero, false and what is empty do not. -/
def isSet : Value → Bool
  | null => false
  | bool b => b
  | int i => i ≠ 0
  | real x => !x.isZero
  | text s => !s.isEmpty
  | moment _ => true
  | list items => !items.isEmpty
  | table fields => !fields.isEmpty

/-- The value of a key. -/
def get? (key : Text) (fields : List (Text × Value)) : Option Value := fields.lookup key

/-- The fields with a key set: a new key goes to the end. -/
def set (key : Text) (v : Value) : List (Text × Value) → List (Text × Value)
  | [] => [(key, v)]
  | (k, w) :: rest => if k = key then (k, v) :: rest else (k, w) :: set key v rest

theorem get?_set_self (key : Text) (v : Value) (fields : List (Text × Value)) :
    get? key (set key v fields) = some v := by
  induction fields with
  | nil => simp [set, get?]
  | cons f rest ih =>
    obtain ⟨k, w⟩ := f
    by_cases h : k = key
    · simp [set, get?, h]
    · have away : (key == k) = false := by simpa using Ne.symm h
      simp only [get?] at ih
      simp [set, get?, h, List.lookup_cons, away, ih]

theorem get?_set_of_ne (key other : Text) (v : Value) (fields : List (Text × Value))
    (h : other ≠ key) : get? other (set key v fields) = get? other fields := by
  induction fields with
  | nil => simp [set, get?, List.lookup_cons, beq_eq_false_iff_ne.mpr h]
  | cons f rest ih =>
    obtain ⟨k, w⟩ := f
    simp only [get?] at ih
    by_cases hk : k = key
    · subst hk
      simp [set, get?, List.lookup_cons, beq_eq_false_iff_ne.mpr h]
    · simp [set, get?, hk, List.lookup_cons, ih]

theorem set_of_not_mem {key : Text} (v : Value) {fields : List (Text × Value)}
    (h : key ∉ fields.map Prod.fst) : set key v fields = fields ++ [(key, v)] := by
  induction fields with
  | nil => rfl
  | cons f rest ih =>
    rw [List.map_cons, List.mem_cons, not_or] at h
    rw [set, if_neg (Ne.symm h.1), ih h.2]
    rfl

mutual

/-- Equal in value: numbers of different kinds may be equal, and the order of a table's keys does
    not matter. -/
def same : Value → Value → Bool
  | null, null => true
  | text s, text t => s == t
  | moment m, moment n => m == n
  | list a, list b => sameItems a b
  | table a, table b => a.length == b.length && sameFields a b
  | v, w =>
    match v.number?, w.number? with
    | some a, some b => a.eq b
    | _, _ => false

def sameItems : List Value → List Value → Bool
  | [], [] => true
  | v :: a, w :: b => same v w && sameItems a b
  | _, _ => false

def sameFields : List (Text × Value) → List (Text × Value) → Bool
  | [], _ => true
  | (k, v) :: rest, b =>
    (match b.lookup k with
      | some w => same v w
      | none => false) && sameFields rest b

end

@[simp] theorem same_text (s t : Text) : same (text s) (text t) = (s == t) := by
  simp [same]

/-- What stands where `old` stood once `v` was put there: an equal value does not replace it. -/
def replacedBy (old v : Value) : Value := if v.same old then old else v

@[simp] theorem replacedBy_text (s t : Text) : replacedBy (text s) (text t) = text t := by
  by_cases h : t = s <;> simp [replacedBy, h]

end Value

end ClusterPrep
