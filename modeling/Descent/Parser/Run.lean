import Descent.Grammar.Build

/-!
# Running parsers

`Parser.run` invokes a parser at a position of an input. It is bounded by the depth of nested
invocations; without an answer within the bound it is `none`. `Parser.invoke` raises the bound until
there is an answer, so that it has none only for parsers that invoke themselves without end. An
error of the grammar ends the whole run at once.
-/

namespace Descent

/-- The result of an invocation and the store after it; `none` if it takes more than it may. -/
abbrev Result := Option (Step × Store)

/-- How a parser is invoked at a position. -/
abbrev Invoke := Nat → Store → Result

namespace Result

/-- Goes on with an outcome; an error is the end. -/
def andThen (result : Result) (next : Outcome Value → Store → Result) : Result :=
  match result with
  | none => none
  | some (.error error, store) => some (.error error, store)
  | some (.ok outcome, store) => next outcome store

/-- Changes the outcome. -/
def mapOutcome (f : Outcome Value → Outcome Value) (result : Result) : Result :=
  result.andThen fun outcome store => some (.ok (f outcome), store)

@[simp] theorem andThen_none (next : Outcome Value → Store → Result) :
    andThen none next = none := rfl

@[simp] theorem andThen_error (error : GrammarError) (store : Store)
    (next : Outcome Value → Store → Result) :
    andThen (some (.error error, store)) next = some (.error error, store) := rfl

@[simp] theorem andThen_ok (outcome : Outcome Value) (store : Store)
    (next : Outcome Value → Store → Result) :
    andThen (some (.ok outcome, store)) next = next outcome store := rfl

end Result

/-! ## Cells -/

/-- The parser of a cell, built if this is the first time that it is asked for. -/
def Store.resolve (cell : Nat) (store : Store) : Parser × Store :=
  match store.cells[cell]? with
  | none => (.raise .undefinedRule, store)
  | some ⟨_, some parser⟩ => (parser, store)
  | some ⟨factory, none⟩ =>
    let (parser, store) := factory.run (store.report .resolvingDeferred).countFactory
    (parser, store.fillCell cell factory parser)

namespace Parser

/-! ## Combinators -/

/-- Invokes the parts in order, each where the one before stopped. `done` holds the values so far,
latest first. The first part that does not match decides the position of the failure. -/
def runSequence (invoke : Parser → Invoke) : List Parser → List Value → Invoke
  | [], done, position, store => some (.ok (.success (.arr done.reverse) position), store)
  | part :: parts, done, position, store =>
    (invoke part position store).andThen fun outcome store =>
      match outcome with
      | .success value next => runSequence invoke parts (value :: done) next store
      | .failure next => some (.ok (.failure next), store)
      | .rejected _ next => some (.ok (.failure next), store)

/-- Invokes the alternatives in order at one position until one matches. -/
def runChoice (invoke : Parser → Invoke) : List Parser → Invoke
  | [], position, store => some (.ok (.failure position), store)
  | alternative :: alternatives, position, store =>
    (invoke alternative position store).andThen fun outcome store =>
      if outcome.matched then some (.ok outcome, store)
      else runChoice invoke alternatives position store

/-- Invokes a parser again and again, each time where it stopped before, until it does not match.
A match that stops where it started would go on for ever and is an error. `done` holds the values
so far, latest first. -/
def runMany (invoke : Invoke) : Nat → List Value → Invoke
  | 0, _, _, _ => none
  | fuel + 1, done, position, store =>
    (invoke position store).andThen fun outcome store =>
      match outcome with
      | .success value next =>
        if next = position then
          some (.error (.zeroWidthRepetition position), store.report (.repetitionStalled position))
        else runMany invoke fuel (value :: done) next store
      | _ => some (.ok (.success (.arr done.reverse) position), store)

/-- Invokes the body of a rule. -/
def runBody (invoke : Parser → Invoke) (slot : Nat) : Invoke := fun position store =>
  match store.body slot with
  | .error error => some (.error error, store)
  | .ok body => invoke body position store

/-- Records the label where the body did not match. -/
def recordFailure (label : String) (position : Nat) (result : Result) : Result :=
  result.andThen fun outcome store =>
    some (.ok outcome, if outcome.matched then store else store.expect position label)

/-! ## Invocation -/

/-- Invokes a parser at a position of the input. -/
def run (input : List Char) : Nat → Parser → Invoke
  | 0, _, _, _ => none
  | fuel + 1, parser, position, store =>
    match parser with
    | literal text => some (.ok (matchLiteral text input position), store)
    | charClass set negate => some (.ok (matchCharClass set negate input position), store)
    | pattern p => some (.ok (matchPattern p input position), store)
    | custom answer => some (answer input position, store)
    | sequence parts => runSequence (run input fuel) parts [] position store
    | choice alternatives => runChoice (run input fuel) alternatives position store
    | many body => runMany (run input fuel body) fuel [] position store
    | optional body => (run input fuel body position store).mapOutcome (optionalOutcome position)
    | deferred cell =>
      let (parser, store) := store.resolve cell
      run input fuel parser position store
    | handle slot => runBody (run input fuel) slot position store
    | rule slot => runBody (run input fuel) slot position store
    | transform f body => (run input fuel body position store).mapOutcome (transformOutcome f)
    | tryTransform f body =>
      (run input fuel body position store).mapOutcome (tryTransformOutcome f position)
    | tag accepts body => (run input fuel body position store).mapOutcome (tagOutcome accepts)
    | guarded accepts body =>
      (run input fuel body position store).mapOutcome (guardOutcome accepts position)
    | labelled label body => recordFailure label position (run input fuel body position store)

/-- The depth of nested invocations that is granted to an input at first. A grammar without left
recursion needs a fixed depth for each character, and no grammar that fits into memory comes near
the one that is granted. -/
def depthLimit (input : List Char) : Nat := (input.length + 1) * 4294967296

/-- Invokes a parser within a depth, and where that does not suffice within twice the depth, and so
on for ever. -/
def deepen (input : List Char) (parser : Parser) (position : Nat) (store : Store) (depth : Nat) :
    Result :=
  match run input depth parser position store with
  | some result => some result
  | none => parser |>.deepen input position store (2 * depth)
partial_fixpoint

/-- Invokes a parser at a position, which is not checked. -/
def invoke (parser : Parser) (input : List Char) : Invoke := fun position store =>
  deepen input parser position store (depthLimit input)

end Parser

end Descent
