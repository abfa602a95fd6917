import Descent.Parser.Run

/-!
# Readers

A reader runs a parser over a whole input: it starts at the beginning, takes a failure to match for
an error, and as a rule asks for the whole input to be matched. `Reader.parseAt` checks a position
before it invokes a parser there.
-/

namespace Descent

/-- What a reader asks for. -/
structure ReaderOptions where
  /-- Whether a match has to reach the end of the input. -/
  requireComplete : Bool := true
deriving DecidableEq, Repr, Inhabited

/-- A parser with what is asked of its matches. A `tracked` reader starts with a fresh record of
failures and adds the farthest one to its errors. -/
structure Reader where
  parser : Parser
  options : ReaderOptions := {}
  tracked : Bool := false

namespace Reader

/-- An answer of a reader and the store after it; `none` if the parser does not come to an end. -/
abbrev Answer (α : Type) := Option (Except ParseError α × Store)

/-- Goes on with the value of an answer. -/
def andThen {α β : Type} (answer : Answer α) (next : α → Store → Answer β) : Answer β :=
  match answer with
  | none => none
  | some (.error error, store) => some (.error error, store)
  | some (.ok a, store) => next a store

/-- The answer to an invocation. -/
def ofResult : Result → Answer (Outcome Value)
  | none => none
  | some (.error error, store) => some (.error (.grammar error), store)
  | some (.ok outcome, store) => some (.ok outcome, store)

/-- Invokes a parser at a position of the input, if it is one. -/
def parseAt (parser : Parser) (input : List Char) (position : Nat) (store : Store) :
    Answer (Outcome Value) :=
  let length := Text.byteLength input
  if length < position then some (.error (.positionOutOfBounds position length), store)
  else if !Text.isBoundary input position then
    some (.error (.misalignedPosition position), store)
  else ofResult (parser.invoke input position store)

/-- The value of a match at the start of the input, and the number of bytes matched. -/
def parsePrefix (reader : Reader) (input : List Char) (store : Store) : Answer (Value × Nat) :=
  let store := if reader.tracked then store.resetTracker else store
  andThen (parseAt reader.parser input 0 store) fun outcome store =>
    match outcome.toMatch with
    | .ok (value, consumed) =>
      some (.ok (value, consumed), store.report (.matched consumed (Text.byteLength input)))
    | .error _ =>
      let farthest? := if reader.tracked then store.tracker.farthest? else none
      some (.error (.noMatch farthest?), store.report .didNotMatch)

/-- The value of a match, which has to be one of the whole input if the options say so. -/
def parse (reader : Reader) (input : List Char) (store : Store) : Answer Value :=
  andThen (reader.parsePrefix input store) fun (value, consumed) store =>
    let length := Text.byteLength input
    if reader.options.requireComplete && consumed != length then
      some (.error (.incomplete consumed length), store.report (.stoppedEarly consumed length))
    else some (.ok value, store)

end Reader

/-- The value of a match of the whole input. -/
def Parser.parseComplete (parser : Parser) (input : List Char) (store : Store) :
    Reader.Answer Value :=
  Reader.parse { parser := parser } input store

end Descent
