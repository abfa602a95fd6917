import Descent.Calc.Expr
import Descent.Error

/-!
# Evaluation

The value of a tree, from left to right at each level of parentheses. Every running total has to be
an integer of 64 bits.
-/

namespace Descent.Calc

/-- Why the calculator has no value to give. -/
inductive CalcError where
  | parse (error : ParseError)
  | grammar (error : GrammarError)
  | overflow
deriving DecidableEq, Repr, Inhabited

namespace CalcError

/-- The text of the error. -/
def message : CalcError → String
  | parse error => error.message
  | grammar error => error.message
  | overflow => "arithmetic overflow"

end CalcError

namespace Operator

/-- The operation on integers. -/
def apply : Operator → Int → Int → Int
  | plus => (· + ·)
  | minus => (· - ·)

/-- The operation on integers of 64 bits, unless the result is none. -/
def checked (op : Operator) (total operand : Int) : Except CalcError Int :=
  let result := op.apply total operand
  if Text.fitsInt64 result then .ok result else .error .overflow

end Operator

mutual

/-- The value of an atom. -/
def Atom.evaluate : Atom → Except CalcError Int
  | .number n => .ok n
  | .group inner => inner.evaluate

/-- The value of a tree. -/
def Expr.evaluate : Expr → Except CalcError Int
  | .mk first rest =>
    match first.evaluate with
    | .ok total => evaluateRest total rest
    | .error error => .error error

/-- The total after the operators, from the total before them. -/
def evaluateRest (total : Int) : List (Operator × Atom) → Except CalcError Int
  | [] => .ok total
  | (op, atom) :: rest =>
    match atom.evaluate with
    | .error error => .error error
    | .ok operand =>
      match op.checked total operand with
      | .error error => .error error
      | .ok total => evaluateRest total rest

end

end Descent.Calc
