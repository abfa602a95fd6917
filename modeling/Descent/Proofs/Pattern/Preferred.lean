import Descent.Proofs.Meaning.Leaves
import Descent.Proofs.Parser.Depth
import Descent.Proofs.Pattern.Bounds
import Descent.Proofs.Pattern.Layout
import Descent.Proofs.Pattern.Simulation
import Descent.Proofs.Pattern.Visited
import Descent.Proofs.Pattern.Written

/-!
# The preferred match

A compiled pattern matches at a position where the pattern as written accepts some front part of the
text from there on, and the match is what the preferred reading of the simplified expression takes.
-/

namespace Descent

namespace Pattern

namespace Program

variable {program : Program} {text taken left : List Char} {choices : List Bool}

/-- The paths through the program are the readings of an expression from a place, with the same
choices, and its runs are among them. -/
structure Follows (program : Program) (expr : Expr) (place : Place) : Prop where
  reaches_iff : ∀ stop choices, program.Reaches place stop choices ↔ expr.Takes place stop choices
  takes : ∀ stop choices, program.Run stop [] 0 place choices → expr.Takes place stop choices

end Program

end Pattern

namespace Parser

open Pattern

end Parser

end Descent
