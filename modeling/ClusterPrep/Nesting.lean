set_option autoImplicit false

/-
  How deeply values can be nested in a text that is read. The readers go down the call stack with
  every bracket that is open, so what they stand depends on how much of the stack is taken where
  they are called.
-/
namespace ClusterPrep

/-- How deeply values can be nested. -/
structure Nesting where
  /-- The greatest number of brackets that can be open at once in a JSON text. -/
  json : Nat
  /-- The levels that open brackets can take at once in a TOML text: an array takes two of them, one
      for itself and one for its items, and an inline table three, one more for its keys. -/
  toml : Nat
  /-- A table of lists can be read. -/
  room : 2 ≤ json

/-- What the readers stand when little of the stack is taken. -/
def Nesting.usual : Nesting where
  json := 989
  toml := 988
  room := Nat.le_add_left 2 987

end ClusterPrep
