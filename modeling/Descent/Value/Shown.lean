import Descent.Outcome
import Descent.Value.Json

/-!
# Outcomes as text

An outcome as JSON, with its three parts in the order matched, value, next, and as it is shown to a
developer.
-/

namespace Descent.Outcome

/-- Whether the parser matched, as text. -/
def matchedText (outcome : Outcome Value) : List Char :=
  (if outcome.matched then "true" else "false").toList

/-- The compact JSON text of an outcome; a value that it does not carry is null. -/
def json (outcome : Outcome Value) : List Char :=
  "\x7b\"matched\":".toList ++ outcome.matchedText ++ ",\"value\":".toList ++
    (outcome.value?.getD .null).json ++ ",\"next\":".toList ++ Text.digits outcome.next ++
    ['\x7d']

/-- A value that may be missing, as it is shown. -/
def shownValue : Option Value → List Char
  | none => "None".toList
  | some value => "Some(".toList ++ value.json ++ [')']

/-- An outcome as it is shown. -/
def shown (outcome : Outcome Value) : List Char :=
  "ParseResult \x7b matched: ".toList ++ outcome.matchedText ++ ", value: ".toList ++
    shownValue outcome.value? ++ ", next: ".toList ++ Text.digits outcome.next ++
    " \x7d".toList

end Descent.Outcome
