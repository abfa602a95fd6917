import Descent.Text.Decimal
import Descent.Tracker

/-!
# Errors

A failure to match is an answer and no error. `GrammarError` tells that a grammar cannot be run as
it is written, `ParseError` why a reader has no value to give.
-/

namespace Descent

/-! ## Grammar errors -/

/-- Why a grammar cannot be run. -/
inductive GrammarError where
  /-- A repetition matched without consuming input. -/
  | zeroWidthRepetition (position : Nat)
  /-- A regular expression does not compile. -/
  | invalidPattern (pattern : String)
  /-- A rule was invoked while its definition was still being built. -/
  | undefinedRule
  /-- A rule was invoked after the last parser that owned it was gone. -/
  | detachedRule
deriving DecidableEq, Repr, Inhabited

namespace GrammarError

/-- The text of the error. -/
def message : GrammarError → String
  | zeroWidthRepetition position =>
    "repetition matched without consuming input at position " ++ Text.decimalString position
  | invalidPattern pattern => "invalid pattern `" ++ pattern ++ "`"
  | undefinedRule => "recursive rule was invoked before its definition was installed"
  | detachedRule => "recursive rule outlived the parser that defines it"

end GrammarError

/-! ## Parse errors -/

/-- Why a reader has no value to give. -/
inductive ParseError where
  /-- The position is beyond the end of the input. -/
  | positionOutOfBounds (position length : Nat)
  /-- The position is inside a character. -/
  | misalignedPosition (position : Nat)
  /-- The input does not match; the farthest failure tells what was expected, if it is known. -/
  | noMatch (farthest? : Option Farthest)
  /-- A match stopped before the end of the input. -/
  | incomplete (consumed length : Nat)
  /-- The grammar cannot be run. -/
  | grammar (error : GrammarError)
deriving DecidableEq, Repr, Inhabited

namespace ParseError

/-- Where the input stopped matching and what was expected there. -/
def describe : Option Farthest → String
  | none => ""
  | some farthest =>
    let place := " at position " ++ Text.decimalString farthest.position
    if farthest.expected.isEmpty then place
    else place ++ ": expected " ++ String.intercalate " or " farthest.expected

/-- The text of the error. -/
def message : ParseError → String
  | positionOutOfBounds position length =>
    "position " ++ Text.decimalString position ++ " is outside the input (length " ++
      Text.decimalString length ++ ")"
  | misalignedPosition position =>
    "position " ++ Text.decimalString position ++ " does not fall on a character boundary"
  | noMatch farthest? => "input did not match" ++ describe farthest?
  | incomplete consumed length =>
    "parsing stopped at position " ++ Text.decimalString consumed ++ " of " ++
      Text.decimalString length
  | grammar error => error.message

end ParseError

end Descent
