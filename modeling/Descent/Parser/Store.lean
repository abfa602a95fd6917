import Descent.Event
import Descent.Grammar.Basic

/-!
# The store

The state that parsers share: the cells of deferred parsers, the slots of recursive rules, the
tracker that all labels write to, and the events reported so far.
-/

namespace Descent

/-! ## Cells and slots -/

/-- What a deferred parser is to be built from: its definition with all that was in scope. -/
structure Factory where
  body : Grammar
  rules : Rules
  scope : Scope

/-- The place of a deferred parser, filled when it is first invoked. -/
structure Cell where
  factory : Factory
  parser? : Option Parser

/-- The place of a recursive rule: its body is not there yet, is in place, or is gone because no
parser owns the rule any more. -/
inductive Slot where
  | pending
  | installed (body : Parser)
  | released

/-- The state that parsers share. -/
structure Store where
  cells : Array Cell
  slots : Array Slot
  tracker : Tracker
  /-- The events reported so far. -/
  events : Array Event
  /-- The number of factories that have been run. -/
  built : Nat
  /-- The slots of exposed rules by name, latest first. -/
  handles : List (String × Nat)
  /-- What invoking the handles of probed rules came to. -/
  probes : Array GrammarError

namespace Store

/-- The store before anything has been built. -/
def empty : Store := ⟨#[], #[], Tracker.empty, #[], 0, [], #[]⟩

/-! ## Operations -/

/-- Reports an event. -/
def report (event : Event) (store : Store) : Store :=
  { store with events := store.events.push event }

/-- Records that `label` was expected at `position`. -/
def expect (position : Nat) (label : String) (store : Store) : Store :=
  { store with tracker := store.tracker.record position label }

/-- Forgets what has been recorded. -/
def resetTracker (store : Store) : Store := { store with tracker := Tracker.empty }

/-- A new cell; its number is the number of cells before. -/
def addCell (factory : Factory) (store : Store) : Store :=
  { store with cells := store.cells.push ⟨factory, none⟩ }

/-- Fills a cell. -/
def fillCell (cell : Nat) (factory : Factory) (parser : Parser) (store : Store) : Store :=
  { store with cells := store.cells.setIfInBounds cell ⟨factory, some parser⟩ }

/-- A new slot without a body; its number is the number of slots before. -/
def addSlot (store : Store) : Store := { store with slots := store.slots.push .pending }

/-- Puts the body of a rule in place. -/
def install (slot : Nat) (body : Parser) (store : Store) : Store :=
  { store with slots := store.slots.setIfInBounds slot (.installed body) }

/-- Counts a factory that is about to run. -/
def countFactory (store : Store) : Store := { store with built := store.built + 1 }

/-- Makes the handle of a rule known under a name. -/
def expose (name : String) (slot : Nat) (store : Store) : Store :=
  { store with handles := (name, slot) :: store.handles }

/-- The body of a rule, or the error that invoking it comes to. -/
def body (slot : Nat) (store : Store) : Except GrammarError Parser :=
  match store.slots[slot]? with
  | some (.installed body) => .ok body
  | some .released => .error .detachedRule
  | some .pending => .error .undefinedRule
  | none => .error .undefinedRule

/-- Invokes the handle of a rule whose body is not there yet. -/
def probe (slot : Nat) (store : Store) : Store :=
  match store.body slot with
  | .error error => { store with probes := store.probes.push error }
  | .ok _ => store

end Store

end Descent
