import Descent.Calc.Expr
import Descent.Grammar.Basic

/-!
# The grammar of the calculator

    number      = [1-9][0-9]* | [0-9]
    operator    = "+" | "-"
    parenthesis = "(" expression ")"
    atom        = number | parenthesis
    expression  = atom (operator atom)*

Its value is that of a tree. A number has at most 64 bits. If blanks are allowed, they may stand
before, between and after tokens; each token takes the blanks behind it.
-/

namespace Descent.Calc

/-- What the calculator accepts. -/
structure CalcOptions where
  /-- Whether blanks may stand between tokens. -/
  allowWhitespace : Bool := false
deriving DecidableEq, Repr, Inhabited

/-- The expression of a numeral without leading zeros. -/
def numberPattern : String := "[1-9][0-9]*|[0-9]"

/-- The blanks between tokens. -/
def blankCharacters : String := " \t\r\n"

/-- The number that digits write, if it has at most 64 bits. -/
def numberValue? : Value → Option Value
  | .str digits => (Text.int64? digits.toList).map .num
  | _ => none

/-- The items of a tree, from its first atom and the pairs of operators and atoms after it. -/
def treeValue : Value → Value
  | .arr [first, .arr pairs] =>
    .arr (first :: pairs.flatMap fun pair => match pair with
      | .arr items => items
      | _ => [])
  | value => value

/-- Any number of blanks. -/
def blanks : Grammar := .many (.charClass blankCharacters false)

/-- A token with the blanks behind it. -/
def lexeme (options : CalcOptions) (token : Grammar) : Grammar :=
  if options.allowWhitespace then .transform (Value.item 0) (.sequence [token, blanks]) else token

def number (options : CalcOptions) : Grammar :=
  .labelled "number" (lexeme options (.tryTransform numberValue? (.pattern numberPattern false)))

def operator (options : CalcOptions) : Grammar :=
  .labelled "operator" (lexeme options (.charClass "+-" false))

def opening (options : CalcOptions) : Grammar :=
  .labelled "'('" (lexeme options (.literal "("))

def closing (options : CalcOptions) : Grammar :=
  .labelled "')'" (lexeme options (.literal ")"))

/-- A number, or an expression in parentheses. -/
def atom (options : CalcOptions) : Grammar :=
  .choice
    [number options,
      .transform (Value.item 1)
        (.sequence [opening options, .var "expression", closing options])]

/-- An expression without the blanks before it. -/
def expression (options : CalcOptions) : Grammar :=
  .recursive "expression" false false
    (.bind "atom" (atom options)
      (.transform treeValue
        (.sequence
          [.var "atom", .many (.sequence [operator options, .var "atom"])])))

/-- The grammar of the calculator. -/
def grammar (options : CalcOptions) : Grammar :=
  if options.allowWhitespace then
    .transform (Value.item 1) (.sequence [blanks, expression options])
  else expression options

end Descent.Calc
