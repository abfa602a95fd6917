import Descent.Text.Decimal

/-!
# Events

What parsers and readers report while they work.
-/

namespace Descent

/-- How much attention an event asks for. -/
inductive Severity where
  | debug
  | warning
deriving DecidableEq, Repr

/-- Something worth reporting. -/
inductive Event where
  /-- A deferred parser is about to be built. -/
  | resolvingDeferred
  /-- The body of a recursive rule is in place. -/
  | installedRule
  /-- A repetition matched without consuming input. -/
  | repetitionStalled (position : Nat)
  /-- A reader got a match. -/
  | matched (consumed length : Nat)
  /-- A reader got no match. -/
  | didNotMatch
  /-- A reader got a match of less than the input, which it was to match as a whole. -/
  | stoppedEarly (consumed length : Nat)
deriving DecidableEq, Repr, Inhabited

namespace Event

def severity : Event → Severity
  | repetitionStalled _ => .warning
  | _ => .debug

def message : Event → String
  | resolvingDeferred => "resolving deferred parser"
  | installedRule => "installed recursive rule"
  | repetitionStalled _ => "repetition stalled on a zero-width match"
  | matched _ _ => "parse matched"
  | didNotMatch => "parse did not match"
  | stoppedEarly _ _ => "parse stopped early"

/-- The details of an event, by name. -/
def fields : Event → List (String × Nat)
  | repetitionStalled position => [("position", position)]
  | matched consumed length => [("consumed", consumed), ("length", length)]
  | stoppedEarly consumed length => [("consumed", consumed), ("length", length)]
  | _ => []

end Event

end Descent
