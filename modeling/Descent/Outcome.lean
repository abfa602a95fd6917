/-!
# Outcomes

What a parser answers at a position: a match with a value, a failure, or a rejection, which is a
match that was refused and still shows its value. `next` is the position behind a match or a
refused match, and for a failure the position that the failing parser reports.
-/

namespace Descent

/-- The answer of a parser. -/
inductive Outcome (α : Type) where
  | success (value : α) (next : Nat)
  | failure (next : Nat)
  | rejected (value : α) (next : Nat)
deriving DecidableEq, Repr, Inhabited

namespace Outcome

variable {α : Type}

/-- Whether the parser matched. -/
def matched : Outcome α → Bool
  | success _ _ => true
  | _ => false

/-- The value that the answer carries. -/
def value? : Outcome α → Option α
  | success value _ => some value
  | failure _ => none
  | rejected value _ => some value

/-- The position that the answer reports. -/
def next : Outcome α → Nat
  | success _ next => next
  | failure next => next
  | rejected _ next => next

/-- The value and position of a match, or the position that all else reports. -/
def toMatch : Outcome α → Except Nat (α × Nat)
  | success value next => .ok (value, next)
  | failure next => .error next
  | rejected _ next => .error next

@[simp] theorem matched_success (value : α) (next : Nat) : (success value next).matched = true :=
  rfl

@[simp] theorem matched_rejected (value : α) (next : Nat) :
    (rejected value next).matched = false := rfl

/-- A match always carries a value. -/
theorem value?_isSome_of_matched {o : Outcome α} (h : o.matched = true) : o.value?.isSome := by
  cases o <;> simp_all [matched, value?]

end Outcome

end Descent
