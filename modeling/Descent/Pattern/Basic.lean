import Descent.Pattern.Footprint
import Descent.Pattern.Meaning
import Descent.Pattern.Text
import Descent.Pattern.Search

/-!
# Patterns

A `Pattern` is a regular expression that has been compiled. It matches at the start of a text only,
and of all matches there it takes the preferred one.
-/

namespace Descent

/-- A compiled regular expression. -/
structure Pattern where
  /-- The expression as written. -/
  source : String
  /-- Whether letter case is ignored from the start. -/
  ignoreCase : Bool
  program : Pattern.Program

namespace Pattern

/-- Compiles an expression; `none` if it is malformed, could match a part of a character, or is too
large. -/
def compile? (source : String) (ignoreCase : Bool) : Option Pattern := do
  let ast ← Ast.ofText? source.toList
  let (expr, _) ← ast.toExpr? { ignoreCase := ignoreCase }
  if footprintLimit < expr.footprint then none
  some ⟨source, ignoreCase, Program.ofNode (Node.ofExpr expr)⟩

/-- The characters of the match at the start of the text, if there is one. -/
def match? (pattern : Pattern) (text : List Char) : Option (List Char) :=
  (pattern.program.matchLength? text).map text.take

end Pattern

end Descent
