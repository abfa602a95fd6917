import Descent.CharSet

/-!
# Expressions

A pattern with its flags applied. The constructors `cat`, `alt` and `rep` are smart: they flatten
nested lists, join alternatives of one character into a class, take a common start out of
alternatives and drop repetitions that repeat nothing. What they build decides which of several
matches is preferred, so their rules are part of the meaning of a pattern.
-/

namespace Descent.Pattern

/-! ## Assertions -/

/-- Tests on the two characters around a place. -/
inductive Look where
  | textStart
  | textEnd
  | lineStart
  | lineEnd
  | crlfLineStart
  | crlfLineEnd
  | wordBoundary (ascii : Bool)
  | notWordBoundary (ascii : Bool)
  | wordStart (ascii : Bool)
  | wordEnd (ascii : Bool)
  | wordStartHalf (ascii : Bool)
  | wordEndHalf (ascii : Bool)
deriving DecidableEq, Repr

/-! ## Expressions -/

/-- An expression. A class without members never matches. -/
inductive Expr where
  | empty
  | chars (set : CharSet)
  | look (l : Look)
  | rep (min : Nat) (max : Option Nat) (greedy : Bool) (sub : Expr)
  | group (index : Nat) (sub : Expr)
  | cat (parts : List Expr)
  | alt (alternatives : List Expr)
deriving Repr

namespace Expr

mutual

/-- Whether two expressions are the same tree. -/
def beq : Expr → Expr → Bool
  | empty, empty => true
  | chars s, chars t => s == t
  | look l, look m => l == m
  | rep m n g e, rep m' n' g' e' => m == m' && n == n' && g == g' && beq e e'
  | group i e, group i' e' => i == i' && beq e e'
  | cat es, cat es' => beqList es es'
  | alt es, alt es' => beqList es es'
  | _, _ => false

def beqList : List Expr → List Expr → Bool
  | [], [] => true
  | e :: es, e' :: es' => beq e e' && beqList es es'
  | _, _ => false

end

instance : BEq Expr := ⟨beq⟩

/-! ## Lengths -/

mutual

/-- The least number of characters of a match; `none` if some part cannot match. -/
def minLength : Expr → Option Nat
  | empty => some 0
  | chars set => if set.isEmpty then none else some 1
  | look _ => some 0
  | rep min _ _ sub => sub.minLength.map (· * min)
  | group _ sub => sub.minLength
  | cat parts => sumMinLength parts
  | alt alternatives => leastMinLength alternatives

def sumMinLength : List Expr → Option Nat
  | [] => some 0
  | e :: es => match e.minLength, sumMinLength es with
    | some m, some n => some (m + n)
    | _, _ => none

def leastMinLength : List Expr → Option Nat
  | [] => none
  | [e] => e.minLength
  | e :: es => match e.minLength, leastMinLength es with
    | some m, some n => some (min m n)
    | _, _ => none

end

mutual

/-- The greatest number of characters of a match; `none` if there is no bound or some part cannot
match. -/
def maxLength : Expr → Option Nat
  | empty => some 0
  | chars set => if set.isEmpty then none else some 1
  | look _ => some 0
  | rep _ max _ sub => match max, sub.maxLength with
    | some m, some n => some (m * n)
    | _, _ => none
  | group _ sub => sub.maxLength
  | cat parts => sumMaxLength parts
  | alt alternatives => greatestMaxLength alternatives

def sumMaxLength : List Expr → Option Nat
  | [] => some 0
  | e :: es => match e.maxLength, sumMaxLength es with
    | some m, some n => some (m + n)
    | _, _ => none

def greatestMaxLength : List Expr → Option Nat
  | [] => none
  | [e] => e.maxLength
  | e :: es => match e.maxLength, greatestMaxLength es with
    | some m, some n => some (max m n)
    | _, _ => none

end

/-- Whether every match consumes a character, as far as lengths tell. -/
def consumes (e : Expr) : Bool :=
  match e.minLength with
  | some n => 0 < n
  | none => false

/-! ## Smart constructors -/

/-- The expression that never matches. -/
def fail : Expr := chars CharSet.empty

/-- The parts of an expression as part of a sequence. -/
def parts : Expr → List Expr
  | empty => []
  | cat es => es
  | e => [e]

/-- The expressions one after another. -/
def ofParts (es : List Expr) : Expr :=
  match es.flatMap parts with
  | [] => empty
  | [e] => e
  | es => cat es

/-- The number of repetitions, where one of something that consumes nothing is as good as
many. -/
def ofRep (min : Nat) (max : Option Nat) (greedy : Bool) (sub : Expr) : Expr :=
  let idle := sub.maxLength == some 0
  let min' := if idle then Nat.min min 1 else min
  let max' := if idle then some (match max with | some n => Nat.min n 1 | none => 1) else max
  match min', max' with
  | 0, some 0 => empty
  | 1, some 1 => sub
  | min', max' => rep min' max' greedy sub

/-- The alternatives of an expression as one of several. -/
def alternatives : Expr → List Expr
  | alt es => es
  | e => [e]

/-- The class that an expression is, if it is one. -/
def class? : Expr → Option CharSet
  | chars set => some set
  | _ => none

/-- The parts of an expression, if it is a sequence. -/
def sequence? : Expr → Option (List Expr)
  | cat es => some es
  | _ => none

/-- The longest list that both start with. -/
def commonStart : List Expr → List Expr → List Expr
  | e :: es, e' :: es' => if e == e' then e :: commonStart es es' else []
  | _, _ => []

/-- The parts that all sequences start with; none if there are fewer than two sequences. -/
def sharedStart : List (List Expr) → List Expr
  | first :: second :: others => (second :: others).foldl commonStart first
  | _ => []

/-- The alternatives in order of preference. Classes become one class. Where all of them are
sequences that start alike, the common start stands before the choice between their rests; `fuel`
bounds how often that is done. -/
def ofAlternativesWithin : Nat → List Expr → Expr
  | 0, es => alt es
  | fuel + 1, es =>
    match es.flatMap alternatives with
    | [] => fail
    | [e] => e
    | es =>
      match es.mapM class? with
      | some sets => chars (CharSet.unions sets)
      | none =>
        match es.mapM sequence? with
        | none => alt es
        | some sequences =>
          match sharedStart sequences with
          | [] => alt es
          | start =>
            let rests := sequences.map fun parts => ofParts (parts.drop start.length)
            ofParts (start ++ [ofAlternativesWithin fuel rests])

mutual

/-- The number of nodes. -/
def size : Expr → Nat
  | rep _ _ _ sub => sub.size + 1
  | group _ sub => sub.size + 1
  | cat es => sizes es + 1
  | alt es => sizes es + 1
  | _ => 1

def sizes : List Expr → Nat
  | [] => 0
  | e :: es => e.size + sizes es

end

/-- The alternatives in order of preference. -/
def ofAlternatives (es : List Expr) : Expr := ofAlternativesWithin (sizes es + 1) es

end Expr

end Descent.Pattern
