/-!
# The farthest failure

A tracker keeps the labels of the parsers that failed farthest into the input since the last reset.
-/

namespace Descent

/-- A position and what was expected there, in the order in which it was first recorded. -/
structure Farthest where
  position : Nat
  expected : List String
deriving DecidableEq, Repr, Inhabited

/-- The record of failures; nothing has been recorded before the first one. -/
structure Tracker where
  farthest? : Option Farthest
deriving DecidableEq, Repr, Inhabited

namespace Tracker

/-- A tracker without records. -/
def empty : Tracker := ⟨none⟩

/-- Records that `label` was expected at `position`. A farther position replaces what is known, a
nearer one changes nothing, and the same one adds its label if that is new. -/
def record (position : Nat) (label : String) (tracker : Tracker) : Tracker :=
  match tracker.farthest? with
  | none => ⟨some ⟨position, [label]⟩⟩
  | some current =>
    if position < current.position then tracker
    else if position = current.position then
      if current.expected.contains label then tracker
      else ⟨some { current with expected := current.expected ++ [label] }⟩
    else ⟨some ⟨position, [label]⟩⟩

@[simp] theorem farthest?_empty : empty.farthest? = none := rfl

end Tracker

end Descent
