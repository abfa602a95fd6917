import Descent.Pattern.Node

/-!
# Programs

The automaton of an expression as a list of instructions. `Node.emit` lays out an expression so that
it starts at its first instruction and leaves by going to `exit`; `Program.ofNode` adds the
accepting instruction at the end.
-/

namespace Descent.Pattern

/-- One state of the automaton, with the states after it. -/
inductive Instruction where
  | accept
  | jump (next : Nat)
  | split (preferred other : Nat)
  | look (l : Look) (next : Nat)
  | chars (set : CharSet) (next : Nat)
deriving DecidableEq, Repr

namespace Instruction

/-- Two ways to go on: to `body` and to `exit`. A greedy choice prefers the body. -/
def choose (greedy : Bool) (body exit : Nat) : Instruction :=
  if greedy then split body exit else split exit body

end Instruction

namespace Node

/-- The number of instructions of an expression. -/
def size : Node → Nat
  | empty => 1
  | chars _ => 1
  | look _ => 1
  | cat first second => first.size + second.size
  | alt preferred other => preferred.size + other.size + 1
  | opt _ body => body.size + 1
  | star _ body => body.size + 1
  | plus _ body => body.size + 1

/-- The instructions of an expression laid out from `start`, which go to `exit` after a match. -/
def emit (start exit : Nat) : Node → List Instruction
  | empty => [.jump exit]
  | chars set => [.chars set exit]
  | look l => [.look l exit]
  | cat first second =>
    first.emit start (start + first.size) ++ second.emit (start + first.size) exit
  | alt preferred other =>
    .split (start + 1) (start + 1 + preferred.size) ::
      (preferred.emit (start + 1) exit ++ other.emit (start + 1 + preferred.size) exit)
  | opt greedy body => .choose greedy (start + 1) exit :: body.emit (start + 1) exit
  | star greedy body => .choose greedy (start + 1) exit :: body.emit (start + 1) start
  | plus greedy body =>
    body.emit start (start + body.size) ++ [.choose greedy start exit]

end Node

/-- The instructions of a whole pattern; the first one is the start. -/
structure Program where
  code : Array Instruction

namespace Program

/-- The program of an expression. -/
def ofNode (node : Node) : Program :=
  ⟨(node.emit 0 node.size ++ [Instruction.accept]).toArray⟩

/-- The instruction at a state. States beyond the end, which no program leads to, accept
nothing. -/
def at? (program : Program) (state : Nat) : Option Instruction := program.code[state]?

end Program

end Descent.Pattern
