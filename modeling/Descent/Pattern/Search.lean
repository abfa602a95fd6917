import Descent.Pattern.Program
import Descent.Unicode.Property

/-!
# Searching

All runs of a program over a text at once, in order of preference. `Program.follow` collects the
states that are reached without consuming a character, each once: a run that comes back to a state
at the same place is dropped, since a preferred run has been there. When a run accepts, the runs
that are less preferred are dropped, and the others go on. `Program.matchLength?` is the number of
characters of the preferred match at the start of the text.
-/

namespace Descent.Pattern

/-! ## Assertions -/

namespace Look

/-- Whether `c?` is a character of a word. -/
def inWord (ascii : Bool) (c? : Option Char) : Bool :=
  match c? with
  | none => false
  | some c =>
    if ascii then c.isAlphanum || c == '_' else Unicode.word.contains c

/-- Whether the test holds between the characters `before?` and `after?`. -/
def holds (before? after? : Option Char) : Look → Bool
  | textStart => before?.isNone
  | textEnd => after?.isNone
  | lineStart => before?.isNone || before? == some '\n'
  | lineEnd => after?.isNone || after? == some '\n'
  | crlfLineStart =>
    before?.isNone || before? == some '\n' || (before? == some '\r' && after? != some '\n')
  | crlfLineEnd =>
    after?.isNone || after? == some '\r' || (after? == some '\n' && before? != some '\r')
  | wordBoundary ascii => inWord ascii before? != inWord ascii after?
  | notWordBoundary ascii => inWord ascii before? == inWord ascii after?
  | wordStart ascii => !inWord ascii before? && inWord ascii after?
  | wordEnd ascii => inWord ascii before? && !inWord ascii after?
  | wordStartHalf ascii => !inWord ascii before?
  | wordEndHalf ascii => !inWord ascii after?

end Look

namespace Program

/-! ## States reached at one place -/

/-- The states met at a place, latest first, and those of them where a run waits for a character
or accepts, least preferred first. -/
structure Front where
  met : List Nat
  waiting : List Nat
deriving DecidableEq, Repr

namespace Front

/-- The front before any run has arrived. -/
def empty : Front := ⟨[], []⟩

end Front

/-- Lets a run arrive at `state`, after all preferred runs have arrived. The text has `before?` and
`after?` around the place. A state that has been met stops the run; so `fuel` beyond the number of
states changes nothing. -/
def follow (program : Program) (before? after? : Option Char) : Nat → Nat → Front → Front
  | 0, _, front => front
  | fuel + 1, state, front =>
    if front.met.contains state then front
    else
      let marked := { front with met := state :: front.met }
      match program.at? state with
      | none => marked
      | some .accept => { marked with waiting := state :: marked.waiting }
      | some (.chars _ _) => { marked with waiting := state :: marked.waiting }
      | some (.jump next) => program.follow before? after? fuel next marked
      | some (.look l next) =>
        if l.holds before? after? then program.follow before? after? fuel next marked else marked
      | some (.split preferred other) =>
        program.follow before? after? fuel other
          (program.follow before? after? fuel preferred marked)

/-- Enough fuel to follow a run to its end. -/
def followFuel (program : Program) : Nat := program.code.size + 1

/-- Lets runs arrive at the states, most preferred first. -/
def arrive (program : Program) (before? after? : Option Char) (states : List Nat) : List Nat :=
  (states.foldl
    (fun front state => program.follow before? after? program.followFuel state front)
    Front.empty).waiting.reverse

/-! ## Steps -/

/-- Whether a run accepts at `state`. -/
def accepts (program : Program) (state : Nat) : Bool := program.at? state == some .accept

/-- The states after consuming `c` at the given ones. -/
def step (program : Program) (c : Char) (states : List Nat) : List Nat :=
  states.filterMap fun state =>
    match program.at? state with
    | some (.chars set next) => if set.contains c then some next else none
    | _ => none

/-- Goes on with the runs that wait at `states` before `rest`, after `consumed` characters; `best?`
is the match to keep if none of them accepts. -/
def search (program : Program) (states : List Nat) (consumed : Nat) (best? : Option Nat) :
    List Char → Option Nat
  | [] => if states.any program.accepts then some consumed else best?
  | c :: rest =>
    let live := states.takeWhile fun state => !program.accepts state
    let best? := if states.any program.accepts then some consumed else best?
    match program.step c live with
    | [] => best?
    | next =>
      program.search (program.arrive (some c) rest.head? next) (consumed + 1) best? rest

/-- The number of characters of the preferred match at the start of the text. -/
def matchLength? (program : Program) (text : List Char) : Option Nat :=
  program.search (program.arrive none text.head? [0]) 0 none text

end Program

end Descent.Pattern
