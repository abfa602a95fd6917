import Descent.Parser.Run
import Descent.Value.Shown

/-!
# Assertions

A chain of checks on the outcome of a parser. The parser is invoked at the start of the input, and
again wherever a check moves to another position. The first check that does not hold, or the first
invocation that comes to an error of the grammar, ends the chain with a text that tells why.
-/

namespace Descent

/-- A link of a chain of assertions. -/
inductive Check where
  /-- Invokes the parser at a position, for the checks that follow. -/
  | moveTo (position : Nat)
  | matches
  | fails
  | value (expected : Value)
  | noValue
  | next (expected : Nat)
  | consumesNothing
  | consumesAll
  | rejected (value : Value) (next : Nat)
deriving Repr

/-- The outcome that checks are about, and where it comes from. -/
structure Assertion where
  input : List Char
  position : Nat
  outcome : Outcome Value

namespace Assertion

/-! ## Texts -/

/-- Which parse an assertion is about: the input and the position. -/
def place (input : List Char) (position : Nat) : List Char :=
  Text.quoted input ++ " at ".toList ++ Text.digits position

/-- The text of an error of the grammar. -/
def errorText (input : List Char) (position : Nat) (error : GrammarError) : List Char :=
  "Grammar error parsing ".toList ++ place input position ++ ": ".toList ++ error.message.toList

/-- The text of a comparison that failed. -/
def comparisonText (what : String) (input : List Char) (position : Nat)
    (actual expected : List Char) : List Char :=
  "assertion `left == right` failed: Unexpected ".toList ++ what.toList ++ " parsing ".toList ++
    place input position ++ "\n  left: ".toList ++ actual ++ "\n right: ".toList ++ expected

/-! ## Checks -/

/-- Whether the parser matched as expected. -/
def checkMatched (expected : Bool) (a : Assertion) : Except (List Char) Unit :=
  if a.outcome.matched = expected then .ok ()
  else
    let verb := if expected then " to match at " else " not to match at "
    .error ("Expected ".toList ++ Text.quoted a.input ++ verb.toList ++ Text.digits a.position ++
      ", got ".toList ++ a.outcome.shown)

/-- Whether the outcome carries the value. -/
def checkValue (expected : Value) (a : Assertion) : Except (List Char) Unit :=
  if a.outcome.value? = some expected then .ok ()
  else .error (comparisonText "value" a.input a.position
    (Outcome.shownValue a.outcome.value?) (Outcome.shownValue (some expected)))

/-- Whether the outcome carries no value. -/
def checkNoValue (a : Assertion) : Except (List Char) Unit :=
  if a.outcome.value?.isNone then .ok ()
  else .error ("Expected no value parsing ".toList ++ place a.input a.position ++
    ", got ".toList ++ Outcome.shownValue a.outcome.value?)

/-- Whether the outcome reports the position. -/
def checkNext (expected : Nat) (a : Assertion) : Except (List Char) Unit :=
  if a.outcome.next = expected then .ok ()
  else .error (comparisonText "next position" a.input a.position
    (Text.digits a.outcome.next) (Text.digits expected))

/-- The verdict of a check that stays where it is. -/
def verdict (a : Assertion) : Check → Except (List Char) Unit
  | .moveTo _ => .ok ()
  | .matches => a.checkMatched true
  | .fails => a.checkMatched false
  | .value expected => a.checkValue expected
  | .noValue => a.checkNoValue
  | .next expected => a.checkNext expected
  | .consumesNothing => a.checkNext a.position
  | .consumesAll => a.checkNext (Text.byteLength a.input)
  | .rejected value next => do
    a.checkMatched false
    a.checkValue value
    a.checkNext next

/-! ## Chains -/

/-- The end of a chain: the outcome at the last position, or the text of the first check that does
not hold. `none` if the parser does not come to an end. -/
abbrev Verdict := Option (Except (List Char) (Outcome Value) × Store)

/-- Goes through the checks. -/
def checkAll (parser : Parser) (a : Assertion) : List Check → Store → Verdict
  | [], store => some (.ok a.outcome, store)
  | .moveTo position :: checks, store =>
    match parser.invoke a.input position store with
    | none => none
    | some (.error error, store) => some (.error (errorText a.input position error), store)
    | some (.ok outcome, store) => checkAll parser ⟨a.input, position, outcome⟩ checks store
  | check :: checks, store =>
    match a.verdict check with
    | .error text => some (.error text, store)
    | .ok () => checkAll parser a checks store

/-- Invokes the parser at the start of the input and goes through the checks. -/
def run (parser : Parser) (input : List Char) (checks : List Check) (store : Store) : Verdict :=
  match parser.invoke input 0 store with
  | none => none
  | some (.error error, store) => some (.error (errorText input 0 error), store)
  | some (.ok outcome, store) => checkAll parser ⟨input, 0, outcome⟩ checks store

end Assertion

end Descent
