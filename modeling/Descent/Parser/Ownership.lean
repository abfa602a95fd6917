import Descent.Grammar.Build

/-!
# Ownership

A rule lives as long as some parser owns it. A parser owns the rules and cells that it mentions, and
through them what their bodies, their factories' scopes and the parsers in their cells own. A
handle owns nothing. `Store.collect` releases the rules that nobody owns.
-/

namespace Descent

/-- A cell or a slot that a parser mentions. -/
inductive Owned where
  | cell (index : Nat)
  | slot (index : Nat)
deriving DecidableEq, Repr

namespace Parser

mutual

/-- The cells and slots that a parser mentions. -/
def owns : Parser → List Owned
  | sequence parts => ownsAll parts
  | choice alternatives => ownsAll alternatives
  | many body => body.owns
  | optional body => body.owns
  | deferred cell => [.cell cell]
  | rule slot => [.slot slot]
  | transform _ body => body.owns
  | tryTransform _ body => body.owns
  | tag _ body => body.owns
  | guarded _ body => body.owns
  | labelled _ body => body.owns
  | _ => []

def ownsAll : List Parser → List Owned
  | [] => []
  | p :: ps => p.owns ++ ownsAll ps

end

end Parser

namespace Store

/-- What the parsers behind a cell or a slot mention. A factory captures all names in scope where
its deferred definition stands, used or not. One that captures fewer is written by the order of the
bindings: its definition gets a name of its own, which is bound before those that it leaves out. -/
def ownedBy (store : Store) : Owned → List Owned
  | .cell i =>
    match store.cells[i]? with
    | none => []
    | some cell => Parser.ownsAll (cell.parser?.toList ++ cell.factory.scope.map Prod.snd)
  | .slot i =>
    match store.slots[i]? with
    | some (.installed body) => body.owns
    | _ => []

/-- Adds what `owned` leads to. Each step down finds something new, so `depth` beyond the number of
cells and slots changes nothing. -/
def reach (store : Store) : Nat → List Owned → Owned → List Owned
  | 0, found, _ => found
  | depth + 1, found, owned =>
    if found.contains owned then found
    else (store.ownedBy owned).foldl (store.reach depth) (owned :: found)

/-- All that the parsers own. -/
def reachable (store : Store) (roots : List Parser) : List Owned :=
  (Parser.ownsAll roots).foldl (store.reach (store.cells.size + store.slots.size + 1)) []

/-- Releases the rules that the parsers do not own. -/
def collect (roots : List Parser) (store : Store) : Store :=
  let found := store.reachable roots
  { store with
    slots := store.slots.mapIdx fun i slot =>
      if found.contains (.slot i) then slot else .released }

end Store

end Descent
