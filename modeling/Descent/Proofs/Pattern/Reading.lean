import Mathlib.Logic.Relation
import Descent.Pattern.Meaning
import Descent.Pattern.Search

/-!
# What a pattern reads

A pattern reads from one place of a text to another: `Ast.Reads flags` is the relation between the
two for a pattern as written and `Expr.Reads` for an expression. Neither says what is preferred. A
test is about the characters around the place where it stands, so that it sees nothing before the
start of the text.
-/

namespace Descent.Pattern

/-! ## Places -/

/-- A place in a text: the characters before it, latest first, and those after it. -/
structure Place where
  behind : List Char
  ahead : List Char
deriving DecidableEq, Repr

namespace Place

/-- The place before the first character. -/
def start (text : List Char) : Place := ⟨[], text⟩

/-- Whether the test holds between the characters around the place. -/
def passes (place : Place) (l : Look) : Bool := l.holds place.behind.head? place.ahead.head?

/-- The place after the next character, if that is one of the set. -/
def after? (place : Place) (set : CharSet) : Option Place :=
  match place.ahead with
  | c :: rest => if set.contains c then some ⟨c :: place.behind, rest⟩ else none
  | [] => none

variable {p q : Place} {set : CharSet}

theorem after?_eq_some_iff :
    p.after? set = some q ↔
      ∃ c, set.contains c = true ∧ p.ahead = c :: q.ahead ∧ q.behind = c :: p.behind := by
  obtain ⟨behind, ahead⟩ := p
  obtain ⟨behind', ahead'⟩ := q
  cases ahead with
  | nil => simp [after?]
  | cons c rest =>
    simp only [after?, Option.ite_none_right_eq_some, Option.some.injEq, Place.mk.injEq,
      List.cons.injEq]
    constructor
    · rintro ⟨hc, rfl, rfl⟩
      exact ⟨c, hc, ⟨rfl, rfl⟩, rfl⟩
    · rintro ⟨c, hc, ⟨rfl, rfl⟩, rfl⟩
      exact ⟨hc, rfl, rfl⟩

theorem length_ahead_of_after? (h : p.after? set = some q) :
    q.ahead.length < p.ahead.length := by
  obtain ⟨c, -, ha, -⟩ := after?_eq_some_iff.1 h
  simp [ha]

end Place

/-! ## Readings -/

/-- Which places a part of a pattern reads to from which. -/
abbrev Reading := Place → Place → Prop

namespace Reading

/-- One character of the set. -/
def char (set : CharSet) : Reading := fun p q => p.after? set = some q

/-- Nothing, where the test holds. -/
def test (l : Look) : Reading := fun p q => p.passes l = true ∧ p = q

/-- `n` times one after another. -/
def times (R : Reading) : Nat → Reading
  | 0 => Eq
  | n + 1 => Relation.Comp R (times R n)

/-- At least `min` times, and at most `max` times if there is a bound. -/
def counted (R : Reading) (min : Nat) (max : Option Nat) : Reading :=
  fun p q => ∃ n, min ≤ n ∧ (∀ m ∈ max, n ≤ m) ∧ R.times n p q

section
variable {set : CharSet} {p q : Place}

theorem char_iff :
    char set p q ↔ ∃ c, set.contains c = true ∧ p.ahead = c :: q.ahead ∧ q.behind = c :: p.behind :=
  Place.after?_eq_some_iff

theorem not_char_empty : ¬char CharSet.empty p q := by
  simp [char_iff, CharSet.contains, CharSet.empty]

end

end Reading

/-! ## Patterns as written -/

namespace Ast

mutual

/-- The flags after a pattern that starts under `flags`. -/
def flagsAfter (flags : Flags) : Ast → Flags
  | Ast.flags change => flags.after change
  | repetition _ _ _ sub => sub.flagsAfter flags
  | alternation alternatives => flagsAfterAll flags alternatives
  | concat parts => flagsAfterAll flags parts
  | _ => flags

/-- The flags after a list of patterns. -/
def flagsAfterAll (flags : Flags) : List Ast → Flags
  | [] => flags
  | a :: as => flagsAfterAll (a.flagsAfter flags) as

end

/-- The characters that a pattern for one character stands for. -/
def class? (flags : Flags) : Ast → Option CharSet
  | literal l => (l.char? flags).map fun c => flags.fold (CharSet.singleton c)
  | dot => dotSet? flags
  | short kind negated => kind.signed? flags negated
  | property query negated => propertySet? flags query negated
  | bracketed negated inner => (inner.set? flags).bind (flags.signed? negated)
  | _ => none

mutual

/-- What a pattern reads under the flags at its start. -/
def Reads (flags : Flags) : Ast → Reading
  | empty | Ast.flags _ => Eq
  | assertion a => Reading.test (a.look flags)
  | repetition min max _ sub => (sub.Reads flags).counted min max
  | group (.capturing _) sub => sub.Reads flags
  | group (.flagged change) sub => sub.Reads (flags.after change)
  | alternation alternatives => readsAny flags alternatives
  | concat parts => readsAll flags parts
  | a => fun p q => ∃ set, a.class? flags = some set ∧ Reading.char set p q

/-- What any of the patterns reads, each under the flags that the ones before it leave. -/
def readsAny (flags : Flags) : List Ast → Reading
  | [] => fun _ _ => False
  | a :: as => fun p q => a.Reads flags p q ∨ readsAny (a.flagsAfter flags) as p q

/-- What the patterns read one after another. -/
def readsAll (flags : Flags) : List Ast → Reading
  | [] => Eq
  | a :: as => Relation.Comp (a.Reads flags) (readsAll (a.flagsAfter flags) as)

end

mutual

/-- Whether no repetition in the pattern has to be made more often than it may be. -/
def Ordered : Ast → Prop
  | repetition min max _ sub => (∀ m ∈ max, min ≤ m) ∧ sub.Ordered
  | group _ sub => sub.Ordered
  | alternation alternatives => AllOrdered alternatives
  | concat parts => AllOrdered parts
  | _ => True

/-- Whether all patterns have their bounds in order. -/
def AllOrdered : List Ast → Prop
  | [] => True
  | a :: as => a.Ordered ∧ AllOrdered as

end

end Ast

/-! ## Expressions -/

namespace Expr

mutual

/-- What an expression reads. -/
def Reads : Expr → Reading
  | empty => Eq
  | chars set => Reading.char set
  | look l => Reading.test l
  | rep min max _ sub => sub.Reads.counted min max
  | group _ sub => sub.Reads
  | cat parts => readsAll parts
  | alt alternatives => readsAny alternatives

/-- What any of the expressions reads. -/
def readsAny : List Expr → Reading
  | [] => fun _ _ => False
  | e :: es => fun p q => e.Reads p q ∨ readsAny es p q

/-- What the expressions read one after another. -/
def readsAll : List Expr → Reading
  | [] => Eq
  | e :: es => Relation.Comp e.Reads (readsAll es)

end

mutual

/-- Whether no repetition in the expression has to be made more often than it may be. -/
def Ordered : Expr → Prop
  | rep min max _ sub => (∀ m ∈ max, min ≤ m) ∧ sub.Ordered
  | group _ sub => sub.Ordered
  | cat parts => AllOrdered parts
  | alt alternatives => AllOrdered alternatives
  | _ => True

/-- Whether all expressions have their bounds in order. -/
def AllOrdered : List Expr → Prop
  | [] => True
  | e :: es => e.Ordered ∧ AllOrdered es

end

end Expr

end Descent.Pattern
