import Descent.Error
import Descent.Outcome
import Descent.Pattern.Basic
import Descent.Value.Basic

/-!
# Parsers

A parser is a graph. Deferred parsers and recursive rules refer by number to a cell or a slot of a
`Store`, so that sharing and cycles are explicit; everything else is a tree.
-/

namespace Descent

/-- What invoking a parser comes to: its outcome, or an error of the grammar. -/
abbrev Step := Except GrammarError (Outcome Value)

/-- A parser. -/
inductive Parser where
  /-- The text itself. -/
  | literal (text : String)
  /-- One character that is in the set, or with `negate` one that is not. -/
  | charClass (set : String) (negate : Bool)
  /-- The preferred match of a regular expression. -/
  | pattern (p : Pattern)
  /-- A function of input and position. -/
  | custom (answer : List Char → Nat → Step)
  /-- All parts, one after another. -/
  | sequence (parts : List Parser)
  /-- The first alternative that matches. -/
  | choice (alternatives : List Parser)
  /-- As many matches as there are, one after another. -/
  | many (body : Parser)
  /-- A match, or nothing. -/
  | optional (body : Parser)
  /-- A parser that is built when it is first invoked. -/
  | deferred (cell : Nat)
  /-- A rule as seen from its own body, which does not keep the rule alive. -/
  | handle (slot : Nat)
  /-- A rule. -/
  | rule (slot : Nat)
  /-- A function of the value. -/
  | transform (f : Value → Value) (body : Parser)
  /-- A partial function of the value; without a result there is no match. -/
  | tryTransform (f : Value → Option Value) (body : Parser)
  /-- Refuses a match whose value does not pass, and shows the value. -/
  | tag (accepts : Value → Bool) (body : Parser)
  /-- Refuses a match whose value does not pass. -/
  | guarded (accepts : Value → Bool) (body : Parser)
  /-- Records where the body failed. -/
  | labelled (label : String) (body : Parser)

namespace Parser

/-- A parser that comes to an error of the grammar wherever it is invoked. -/
def raise (error : GrammarError) : Parser := custom fun _ _ => .error error

/-! ## Leaves -/

/-- The outcome of `literal` at a position. -/
def matchLiteral (text : String) (input : List Char) (position : Nat) : Outcome Value :=
  match Text.suffixAt? input position with
  | some rest =>
    if text.toList.isPrefixOf rest then
      .success (.str text) (position + Text.byteLength text.toList)
    else .failure position
  | none => .failure position

/-- The outcome of `charClass` at a position. -/
def matchCharClass (set : String) (negate : Bool) (input : List Char) (position : Nat) :
    Outcome Value :=
  match Text.suffixAt? input position with
  | some (c :: _) =>
    if set.toList.contains c != negate then .success (.ofChars [c]) (position + c.utf8Size)
    else .failure position
  | _ => .failure position

/-- The outcome of `pattern` at a position, which sees the input from there on only. -/
def matchPattern (p : Pattern) (input : List Char) (position : Nat) : Outcome Value :=
  match (Text.suffixAt? input position).bind p.match? with
  | some text => .success (.ofChars text) (position + Text.byteLength text)
  | none => .failure position

/-! ## Shaping outcomes -/

/-- The outcome of `transform`. Only a match keeps its value. -/
def transformOutcome (f : Value → Value) : Outcome Value → Outcome Value
  | .success value next => .success (f value) next
  | .failure next => .failure next
  | .rejected _ next => .failure next

/-- The outcome of `tryTransform` at `position`. -/
def tryTransformOutcome (f : Value → Option Value) (position : Nat) :
    Outcome Value → Outcome Value
  | .success value next =>
    match f value with
    | some value => .success value next
    | none => .failure position
  | .failure next => .failure next
  | .rejected _ next => .failure next

/-- The outcome of `tag`. -/
def tagOutcome (accepts : Value → Bool) : Outcome Value → Outcome Value
  | .success value next => if accepts value then .success value next else .rejected value next
  | outcome => outcome

/-- The outcome of `guarded` at `position`. -/
def guardOutcome (accepts : Value → Bool) (position : Nat) : Outcome Value → Outcome Value
  | .success value next => if accepts value then .success value next else .failure position
  | outcome => outcome

/-- The outcome of `optional` at `position`. -/
def optionalOutcome (position : Nat) : Outcome Value → Outcome Value
  | .success value next => .success (.ofOption (some value)) next
  | .failure _ => .success (.ofOption none) position
  | .rejected _ _ => .success (.ofOption none) position

end Parser

end Descent
