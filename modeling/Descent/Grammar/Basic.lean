import Descent.Parser.Basic

/-!
# Grammars

The language in which parsers are defined. `Grammar.build` makes a parser of a grammar. Names refer
to variables of the scope or to the rules given beside the grammar.
-/

namespace Descent

/-- A definition of a parser. -/
inductive Grammar where
  | literal (text : String)
  | charClass (set : String) (negate : Bool)
  /-- A regular expression, which may turn out not to compile. -/
  | pattern (expression : String) (ignoreCase : Bool)
  | custom (answer : List Char → Nat → Step)
  | sequence (parts : List Grammar)
  | choice (alternatives : List Grammar)
  | many (body : Grammar)
  | optional (body : Grammar)
  /-- Building is put off until the parser is invoked. -/
  | deferred (body : Grammar)
  /-- The definition of that name, built anew. -/
  | rule (name : String)
  /-- A parser that is built once and stands under a name in the body. -/
  | bind (name : String) (definition body : Grammar)
  /-- A rule whose handle stands under a name in its body. An `exposed` rule makes the handle known
  to the outside; a `probed` one invokes it before the body is built. -/
  | recursive (name : String) (exposed probed : Bool) (body : Grammar)
  | var (name : String)
  | transform (f : Value → Value) (body : Grammar)
  | tryTransform (f : Value → Option Value) (body : Grammar)
  | tag (accepts : Value → Bool) (body : Grammar)
  | guarded (accepts : Value → Bool) (body : Grammar)
  | labelled (label : String) (body : Grammar)

namespace Grammar

/-- Two definitions, one after the other. -/
def followedBy (first second : Grammar) : Grammar := sequence [first, second]

/-- Two definitions, the other one where the preferred one does not match. -/
def orElse (preferred other : Grammar) : Grammar := choice [preferred, other]

end Grammar

/-- Definitions by name. -/
abbrev Rules := List (String × Grammar)

/-- Parsers by name, the innermost first. -/
abbrev Scope := List (String × Parser)

end Descent
