import Descent.Pattern.Expr

/-!
# Expressions with simple loops

Counted repetitions written out as copies, loops and nested options. A loop over something that may
match nothing is an option around a loop that runs at least once, which decides what is preferred
when an iteration consumes nothing.
-/

namespace Descent.Pattern

/-- An expression with binary choices and simple loops. A greedy loop or option prefers to go on,
a lazy one to leave. -/
inductive Node where
  | empty
  | chars (set : CharSet)
  | look (l : Look)
  | cat (first second : Node)
  | alt (preferred other : Node)
  | opt (greedy : Bool) (body : Node)
  | star (greedy : Bool) (body : Node)
  | plus (greedy : Bool) (body : Node)
deriving DecidableEq, Repr

namespace Node

/-! ## Repetitions -/

/-- `n` copies and then `last`. -/
def copies (body : Node) (last : Node) : Nat → Node
  | 0 => last
  | n + 1 => cat body (copies body last n)

/-- Up to `n` copies: each is an option around itself and the further ones. -/
def upTo (greedy : Bool) (body : Node) : Nat → Node
  | 0 => empty
  | 1 => opt greedy body
  | n + 2 => opt greedy (cat body (upTo greedy body (n + 1)))

/-- Any number of iterations; `consumes` tells that none of them is empty. -/
def many (greedy consumes : Bool) (body : Node) : Node :=
  if consumes then star greedy body else opt greedy (plus greedy body)

/-- From `min` to `max` iterations, without end if there is no `max`. -/
def repeated (min : Nat) (max : Option Nat) (greedy consumes : Bool) (body : Node) : Node :=
  match min, max with
  | 0, none => many greedy consumes body
  | min + 1, none => copies body (plus greedy body) min
  | 0, some max => upTo greedy body max
  | min + 1, some max =>
    if max ≤ min + 1 then copies body body min
    else copies body (upTo greedy body (max - (min + 1))) (min + 1)

mutual

/-- The expression with its repetitions written out. -/
def ofExpr : Expr → Node
  | .empty => empty
  | .chars set => chars set
  | .look l => look l
  | .rep min max greedy sub => repeated min max greedy sub.consumes (ofExpr sub)
  | .group _ sub => ofExpr sub
  | .cat parts => ofSequence parts
  | .alt alternatives => ofChoice alternatives

/-- The parts one after another. -/
def ofSequence : List Expr → Node
  | [] => empty
  | [e] => ofExpr e
  | e :: es => cat (ofExpr e) (ofSequence es)

/-- The alternatives in order; without any, what never matches. -/
def ofChoice : List Expr → Node
  | [] => chars CharSet.empty
  | [e] => ofExpr e
  | e :: es => alt (ofExpr e) (ofChoice es)

end

end Node

end Descent.Pattern
