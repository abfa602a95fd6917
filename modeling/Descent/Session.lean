import Descent.Assertion
import Descent.Reader
import Descent.Parser.Ownership

/-!
# Sessions

A session keeps one reader and uses it, its parser, the handles of its rules and the tracker in any
order. After each use the rules that the parser does not own are released; after `drop` there is no
parser left, and all rules are gone.
-/

namespace Descent

/-- A reader in use, if it has not been dropped, and the store it works on. -/
structure Session where
  reader? : Option Reader
  store : Store

namespace Session

/-- The parsers that are still there. -/
def roots (session : Session) : List Parser := (session.reader?.map Reader.parser).toList

/-- Puts the store in place, without the rules that nobody owns. -/
def settle (session : Session) (store : Store) : Session :=
  { session with store := store.collect session.roots }

/-- Starts a session with the parser of a grammar. The store is that of the end of building, which
may have failed. -/
def start (rules : Rules) (grammar : Grammar) (options : ReaderOptions) (tracked : Bool) :
    Except GrammarError Session × Store :=
  match grammar.build rules [] Store.empty with
  | (.error error, store) => (.error error, store)
  | (.ok parser, store) =>
    let reader : Reader := { parser := parser, options := options, tracked := tracked }
    (.ok (settle ⟨some reader, store⟩ store), store)

/-- Uses the reader. `none` if it has been dropped or does not come to an end. -/
def use {α : Type} (session : Session) (act : Reader → Store → Option (α × Store)) :
    Option (α × Session) :=
  match session.reader? with
  | none => none
  | some reader => (act reader session.store).map fun (a, store) => (a, session.settle store)

/-- Invokes the parser at a position, which is not checked. -/
def invoke (session : Session) (input : List Char) (position : Nat) : Option (Step × Session) :=
  session.use fun reader store => reader.parser.invoke input position store

/-- Invokes the handle of an exposed rule at a position, which is not checked. -/
def invokeHandle (session : Session) (name : String) (input : List Char) (position : Nat) :
    Option (Step × Session) :=
  match session.store.handles.lookup name with
  | none => none
  | some slot =>
    ((Parser.handle slot).invoke input position session.store).map fun (step, store) =>
      (step, session.settle store)

/-- Drops the reader and with it the parser. -/
def drop (session : Session) : Session := settle ⟨none, session.store⟩ session.store

/-- Records a failure by hand. -/
def record (session : Session) (position : Nat) (label : String) : Session :=
  { session with store := session.store.expect position label }

/-- Forgets the failures recorded so far. -/
def reset (session : Session) : Session :=
  { session with store := session.store.resetTracker }

end Session

end Descent
