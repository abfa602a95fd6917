import Descent.Grammar.Build
import Descent.Proofs.Parser.Depth

/-!
# What a grammar means

`Derives rules input (.whole c) position step failures`: at `position` of `input`, the definition
`c` answers `step`, and on the way the labels of `failures` are recorded, in that order. There is no
state: no cells, no slots and no tracker. A definition comes as a `Closure`, with the meanings of
its names beside it; a deferred part means its body, a rule and its handle mean the body of the
rule, where the handle again means the rule (`Closure.Means`).

The rules for the leaves are in `Recognizes`, those for the combinators that change an outcome in
`Reshapes`. `Grammar.Answers` is the relation for a grammar that stands on its own.
-/

namespace Descent

/-! ## Positions -/

/-- `rest` is the part of the input from the position on. -/
def Text.At (input : List Char) (position : Nat) (rest : List Char) : Prop :=
  ∃ front, input = front ++ rest ∧ byteLength front = position

/-! ## Definitions -/

/-- A definition and what its names mean: the variables in scope, and how deep the named definitions
that it mentions may still be nested. -/
structure Closure where
  grammar : Grammar
  depth : Nat
  scope : List (String × Closure)

namespace Grammar

mutual

/-- The first expression outside of deferred parts that does not compile, as the error that building
comes to. -/
def faultWith (named : String → Option GrammarError) : Grammar → Option GrammarError
  | pattern expression ignoreCase =>
    if (Pattern.compile? expression ignoreCase).isSome then none
    else some (.invalidPattern expression)
  | sequence parts => faultAll named parts
  | choice alternatives => faultAll named alternatives
  | many body => body.faultWith named
  | optional body => body.faultWith named
  | rule name => named name
  | bind _ definition body => (definition.faultWith named).or (body.faultWith named)
  | recursive _ _ _ body => body.faultWith named
  | transform _ body => body.faultWith named
  | tryTransform _ body => body.faultWith named
  | tag _ body => body.faultWith named
  | guarded _ body => body.faultWith named
  | labelled _ body => body.faultWith named
  | literal _ | charClass _ _ | custom _ | deferred _ | var _ => none

def faultAll (named : String → Option GrammarError) : List Grammar → Option GrammarError
  | [] => none
  | g :: gs => (g.faultWith named).or (faultAll named gs)

end

/-- The error that building the definition of a name comes to. -/
def faultNamed (rules : Rules) : Nat → String → Option GrammarError
  | 0, _ => none
  | depth + 1, name =>
    match rules.lookup name with
    | some definition => definition.faultWith (faultNamed rules depth)
    | none => none

/-- The error that building a definition comes to, if it does not succeed. -/
def fault (rules : Rules) (g : Grammar) : Option GrammarError :=
  g.faultWith (faultNamed rules rules.length)

/-- The body of a definition that shapes, or only watches, the answers of one other. -/
def body? : Grammar → Option Grammar
  | optional body => some body
  | transform _ body => some body
  | tryTransform _ body => some body
  | tag _ body => some body
  | guarded _ body => some body
  | labelled _ body => some body
  | _ => none

end Grammar

namespace Closure

/-- Another definition with the same names. -/
def inner (c : Closure) (g : Grammar) : Closure := { c with grammar := g }

@[simp] theorem inner_mk (g g' : Grammar) (depth : Nat) (scope : List (String × Closure)) :
    (mk g depth scope).inner g' = mk g' depth scope := rfl

/-- `c.Means rules c'`: to invoke `c` is to invoke `c'`. -/
inductive Means (rules : Rules) : Closure → Closure → Prop
  /-- A variable means what is bound to it. -/
  | var {name : String} {d : Nat} {ρ : List (String × Closure)} {c : Closure} :
      ρ.lookup name = some c → Means rules ⟨.var name, d, ρ⟩ c
  | bind {name : String} {definition body : Grammar} {d : Nat} {ρ : List (String × Closure)} :
      Means rules ⟨.bind name definition body, d, ρ⟩ ⟨body, d, (name, ⟨definition, d, ρ⟩) :: ρ⟩
  /-- A name of the rules means its definition. -/
  | rule {name : String} {definition : Grammar} {d : Nat} {ρ : List (String × Closure)} :
      rules.lookup name = some definition → Means rules ⟨.rule name, d + 1, ρ⟩ ⟨definition, d, ρ⟩
  /-- A recursive rule means its body, where its name means the rule. -/
  | recursive {name : String} {exposed probed : Bool} {body : Grammar} {d : Nat}
      {ρ : List (String × Closure)} :
      Means rules ⟨.recursive name exposed probed body, d, ρ⟩
        ⟨body, d, (name, ⟨.recursive name exposed probed body, d, ρ⟩) :: ρ⟩
  /-- A deferred definition means the definition. -/
  | deferred {body : Grammar} {d : Nat} {ρ : List (String × Closure)} :
      body.fault rules = none → Means rules ⟨.deferred body, d, ρ⟩ ⟨body, rules.length, ρ⟩

/-- `c.Dangles rules error`: to invoke `c` is to raise `error`, since there is nothing behind it. -/
inductive Dangles (rules : Rules) : Closure → GrammarError → Prop
  | var {name : String} {d : Nat} {ρ : List (String × Closure)} :
      ρ.lookup name = none → Dangles rules ⟨.var name, d, ρ⟩ .undefinedRule
  | rule {name : String} {d : Nat} {ρ : List (String × Closure)} :
      d = 0 ∨ rules.lookup name = none → Dangles rules ⟨.rule name, d, ρ⟩ .undefinedRule
  /-- A deferred definition that cannot be built raises the error of building it. -/
  | deferred {body : Grammar} {d : Nat} {ρ : List (String × Closure)} {error : GrammarError} :
      body.fault rules = some error → Dangles rules ⟨.deferred body, d, ρ⟩ error

end Closure

/-! ## Leaves -/

/-- `Recognizes input position g step`: the leaf `g` answers `step` at the position. -/
inductive Recognizes (input : List Char) (position : Nat) : Grammar → Step → Prop
  | literal {text : String} {rest : List Char} :
      Text.At input position (text.toList ++ rest) →
      Recognizes input position (.literal text)
        (.ok (.success (.str text) (position + Text.byteLength text.toList)))
  | literal_fails {text : String} :
      (∀ rest, ¬ Text.At input position (text.toList ++ rest)) →
      Recognizes input position (.literal text) (.ok (.failure position))
  | charClass {set : String} {negate : Bool} {c : Char} {rest : List Char} :
      Text.At input position (c :: rest) → (c ∈ set.toList ↔ negate = false) →
      Recognizes input position (.charClass set negate)
        (.ok (.success (.ofChars [c]) (position + c.utf8Size)))
  | charClass_fails {set : String} {negate : Bool} :
      (∀ c rest, Text.At input position (c :: rest) → ¬ (c ∈ set.toList ↔ negate = false)) →
      Recognizes input position (.charClass set negate) (.ok (.failure position))
  /-- A pattern sees the input from the position on, and takes its preferred match there. -/
  | pattern {expression : String} {ignoreCase : Bool} {p : Pattern} {text rest : List Char} :
      Pattern.compile? expression ignoreCase = some p → Text.At input position (text ++ rest) →
      p.match? (text ++ rest) = some text →
      Recognizes input position (.pattern expression ignoreCase)
        (.ok (.success (.ofChars text) (position + Text.byteLength text)))
  | pattern_fails {expression : String} {ignoreCase : Bool} {p : Pattern} :
      Pattern.compile? expression ignoreCase = some p →
      (∀ rest, Text.At input position rest → p.match? rest = none) →
      Recognizes input position (.pattern expression ignoreCase) (.ok (.failure position))
  | custom {answer : List Char → Nat → Step} :
      Recognizes input position (.custom answer) (answer input position)

/-! ## Shapes -/

/-- `Reshapes position g body o o'`: where `body` answers `o` at the position, `g` answers `o'`. -/
inductive Reshapes (position : Nat) : Grammar → Grammar → Outcome Value → Outcome Value → Prop
  | optional_match {body : Grammar} {v : Value} {next : Nat} :
      Reshapes position (.optional body) body (.success v next)
        (.success (.ofOption (some v)) next)
  | optional_none {body : Grammar} {o : Outcome Value} : o.matched = false →
      Reshapes position (.optional body) body o (.success (.ofOption none) position)
  | transform_match {f : Value → Value} {body : Grammar} {v : Value} {next : Nat} :
      Reshapes position (.transform f body) body (.success v next) (.success (f v) next)
  | transform_fails {f : Value → Value} {body : Grammar} {o : Outcome Value} :
      o.matched = false → Reshapes position (.transform f body) body o (.failure o.next)
  | tryTransform_match {f : Value → Option Value} {body : Grammar} {v w : Value} {next : Nat} :
      f v = some w →
      Reshapes position (.tryTransform f body) body (.success v next) (.success w next)
  | tryTransform_none {f : Value → Option Value} {body : Grammar} {v : Value} {next : Nat} :
      f v = none →
      Reshapes position (.tryTransform f body) body (.success v next) (.failure position)
  | tryTransform_fails {f : Value → Option Value} {body : Grammar} {o : Outcome Value} :
      o.matched = false → Reshapes position (.tryTransform f body) body o (.failure o.next)
  | tag_accepts {accepts : Value → Bool} {body : Grammar} {v : Value} {next : Nat} :
      accepts v = true →
      Reshapes position (.tag accepts body) body (.success v next) (.success v next)
  | tag_rejects {accepts : Value → Bool} {body : Grammar} {v : Value} {next : Nat} :
      accepts v = false →
      Reshapes position (.tag accepts body) body (.success v next) (.rejected v next)
  | tag_fails {accepts : Value → Bool} {body : Grammar} {o : Outcome Value} :
      o.matched = false → Reshapes position (.tag accepts body) body o o
  | guarded_accepts {accepts : Value → Bool} {body : Grammar} {v : Value} {next : Nat} :
      accepts v = true →
      Reshapes position (.guarded accepts body) body (.success v next) (.success v next)
  | guarded_rejects {accepts : Value → Bool} {body : Grammar} {v : Value} {next : Nat} :
      accepts v = false →
      Reshapes position (.guarded accepts body) body (.success v next) (.failure position)
  | guarded_fails {accepts : Value → Bool} {body : Grammar} {o : Outcome Value} :
      o.matched = false → Reshapes position (.guarded accepts body) body o o

/-! ## Answers -/

/-- A label that was recorded, and where. -/
structure Failure where
  position : Nat
  label : String
deriving DecidableEq, Repr

/-- Records the failures in order. -/
def Tracker.recordAll (failures : List Failure) (tracker : Tracker) : Tracker :=
  failures.foldl (fun tracker failure => tracker.record failure.position failure.label) tracker

/-- Puts a value in front of those of a match; all else stays as it is. -/
def Step.cons (v : Value) : Step → Step
  | .ok (.success (.arr vs) next) => .ok (.success (.arr (v :: vs)) next)
  | step => step

/-- What is invoked: a definition, the rest of a sequence, the rest of a choice, or a definition
again and again. -/
inductive Task where
  | whole (c : Closure)
  | parts (cs : List Closure)
  | alternatives (cs : List Closure)
  | iterations (c : Closure)

/-- What a task answers at a position, and the failures recorded meanwhile. -/
inductive Derives (rules : Rules) (input : List Char) :
    Task → Nat → Step → List Failure → Prop
  | recognizes {c : Closure} {position : Nat} {step : Step} :
      Recognizes input position c.grammar step →
      Derives rules input (.whole c) position step []
  | means {c c' : Closure} {position : Nat} {step : Step} {failures : List Failure} :
      c.Means rules c' → Derives rules input (.whole c') position step failures →
      Derives rules input (.whole c) position step failures
  | dangles {c : Closure} {position : Nat} {error : GrammarError} :
      c.Dangles rules error → Derives rules input (.whole c) position (.error error) []
  | reshapes {c : Closure} {body : Grammar} {position : Nat} {o o' : Outcome Value}
      {failures : List Failure} :
      Reshapes position c.grammar body o o' →
      Derives rules input (.whole (c.inner body)) position (.ok o) failures →
      Derives rules input (.whole c) position (.ok o') failures
  | labelled_match {c : Closure} {label : String} {body : Grammar} {position : Nat}
      {o : Outcome Value} {failures : List Failure} :
      c.grammar = .labelled label body →
      Derives rules input (.whole (c.inner body)) position (.ok o) failures → o.matched = true →
      Derives rules input (.whole c) position (.ok o) failures
  | labelled_fails {c : Closure} {label : String} {body : Grammar} {position : Nat}
      {o : Outcome Value} {failures : List Failure} :
      c.grammar = .labelled label body →
      Derives rules input (.whole (c.inner body)) position (.ok o) failures → o.matched = false →
      Derives rules input (.whole c) position (.ok o) (failures ++ [⟨position, label⟩])
  | body_error {c : Closure} {body : Grammar} {position : Nat} {error : GrammarError}
      {failures : List Failure} :
      c.grammar.body? = some body →
      Derives rules input (.whole (c.inner body)) position (.error error) failures →
      Derives rules input (.whole c) position (.error error) failures
  | sequence {c : Closure} {parts : List Grammar} {position : Nat} {step : Step}
      {failures : List Failure} :
      c.grammar = .sequence parts →
      Derives rules input (.parts (parts.map c.inner)) position step failures →
      Derives rules input (.whole c) position step failures
  | choice {c : Closure} {alternatives : List Grammar} {position : Nat} {step : Step}
      {failures : List Failure} :
      c.grammar = .choice alternatives →
      Derives rules input (.alternatives (alternatives.map c.inner)) position step failures →
      Derives rules input (.whole c) position step failures
  | many {c : Closure} {body : Grammar} {position : Nat} {step : Step}
      {failures : List Failure} :
      c.grammar = .many body →
      Derives rules input (.iterations (c.inner body)) position step failures →
      Derives rules input (.whole c) position step failures
  /-- Each part starts where the one before stopped. -/
  | parts_nil {position : Nat} :
      Derives rules input (.parts []) position (.ok (.success (.arr []) position)) []
  | parts_cons {c : Closure} {cs : List Closure} {position next : Nat} {v : Value} {step : Step}
      {failures failures' : List Failure} :
      Derives rules input (.whole c) position (.ok (.success v next)) failures →
      Derives rules input (.parts cs) next step failures' →
      Derives rules input (.parts (c :: cs)) position (step.cons v) (failures ++ failures')
  | parts_fails {c : Closure} {cs : List Closure} {position : Nat} {o : Outcome Value}
      {failures : List Failure} :
      Derives rules input (.whole c) position (.ok o) failures → o.matched = false →
      Derives rules input (.parts (c :: cs)) position (.ok (.failure o.next)) failures
  | parts_error {c : Closure} {cs : List Closure} {position : Nat} {error : GrammarError}
      {failures : List Failure} :
      Derives rules input (.whole c) position (.error error) failures →
      Derives rules input (.parts (c :: cs)) position (.error error) failures
  /-- Each alternative is tried after all before it have failed. -/
  | alternatives_nil {position : Nat} :
      Derives rules input (.alternatives []) position (.ok (.failure position)) []
  | alternatives_match {c : Closure} {cs : List Closure} {position : Nat} {o : Outcome Value}
      {failures : List Failure} :
      Derives rules input (.whole c) position (.ok o) failures → o.matched = true →
      Derives rules input (.alternatives (c :: cs)) position (.ok o) failures
  | alternatives_next {c : Closure} {cs : List Closure} {position : Nat} {o : Outcome Value}
      {step : Step} {failures failures' : List Failure} :
      Derives rules input (.whole c) position (.ok o) failures → o.matched = false →
      Derives rules input (.alternatives cs) position step failures' →
      Derives rules input (.alternatives (c :: cs)) position step (failures ++ failures')
  | alternatives_error {c : Closure} {cs : List Closure} {position : Nat} {error : GrammarError}
      {failures : List Failure} :
      Derives rules input (.whole c) position (.error error) failures →
      Derives rules input (.alternatives (c :: cs)) position (.error error) failures
  /-- Iterations go on as long as they match and advance. -/
  | iterations_stop {c : Closure} {position : Nat} {o : Outcome Value} {failures : List Failure} :
      Derives rules input (.whole c) position (.ok o) failures → o.matched = false →
      Derives rules input (.iterations c) position (.ok (.success (.arr []) position)) failures
  | iterations_next {c : Closure} {position next : Nat} {v : Value} {step : Step}
      {failures failures' : List Failure} :
      Derives rules input (.whole c) position (.ok (.success v next)) failures →
      next ≠ position → Derives rules input (.iterations c) next step failures' →
      Derives rules input (.iterations c) position (step.cons v) (failures ++ failures')
  | iterations_stall {c : Closure} {position : Nat} {v : Value} {failures : List Failure} :
      Derives rules input (.whole c) position (.ok (.success v position)) failures →
      Derives rules input (.iterations c) position (.error (.zeroWidthRepetition position))
        failures
  | iterations_error {c : Closure} {position : Nat} {error : GrammarError}
      {failures : List Failure} :
      Derives rules input (.whole c) position (.error error) failures →
      Derives rules input (.iterations c) position (.error error) failures

/-- A grammar on its own: no variable is in scope. -/
def Grammar.closed (rules : Rules) (g : Grammar) : Closure := ⟨g, rules.length, []⟩

/-- What a grammar answers at a position of the input. -/
def Grammar.Answers (rules : Rules) (g : Grammar) (input : List Char) (position : Nat)
    (step : Step) : Prop :=
  ∃ failures, Derives rules input (.whole (g.closed rules)) position step failures

end Descent
