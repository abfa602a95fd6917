/-!
# Patterns as written

The tree of a regular expression before flags are applied to it. `Ast.depth` measures how deeply
groups, classes, repetitions and lists are nested, which has a limit.
-/

namespace Descent.Pattern

/-! ## Flags -/

/-- The letters that may stand in a flag group. -/
inductive Flag where
  | ignoreCase
  | multiLine
  | dotAll
  | swapGreed
  | unicode
  | crlf
  | ignoreBlanks
deriving DecidableEq, Repr

namespace Flag

/-- The flag that a letter stands for. -/
def ofLetter? : Char → Option Flag
  | 'i' => some .ignoreCase
  | 'm' => some .multiLine
  | 's' => some .dotAll
  | 'U' => some .swapGreed
  | 'u' => some .unicode
  | 'R' => some .crlf
  | 'x' => some .ignoreBlanks
  | _ => none

end Flag

/-- What a flag group says: which flags it turns on and which off. -/
structure FlagChange where
  on : List Flag
  off : List Flag
deriving DecidableEq, Repr

namespace FlagChange

/-- The state that the group gives to a flag, if it mentions it. -/
def state? (change : FlagChange) (flag : Flag) : Option Bool :=
  if change.on.contains flag then some true
  else if change.off.contains flag then some false
  else none

/-- The state of a flag after the group, given the state before it. -/
def apply (change : FlagChange) (flag : Flag) (before : Bool) : Bool :=
  (change.state? flag).getD before

end FlagChange

/-! ## Classes -/

/-- A character that stands for itself. `isByte` marks the two-digit escape, which names a byte
where the pattern is not about Unicode. -/
structure Literal where
  char : Char
  isByte : Bool
deriving DecidableEq, Repr

/-- The classes that have a one-letter escape. -/
inductive ShortClass where
  | digit
  | space
  | word
deriving DecidableEq, Repr

/-- The classes that may be named inside brackets, as in `[:alpha:]`. -/
inductive NamedClass where
  | alnum | alpha | ascii | blank | cntrl | digit | graph
  | lower | print | punct | space | upper | word | xdigit
deriving DecidableEq, Repr

namespace NamedClass

/-- The class of that name. -/
def ofName? : List Char → Option NamedClass
  | ['a', 'l', 'n', 'u', 'm'] => some .alnum
  | ['a', 'l', 'p', 'h', 'a'] => some .alpha
  | ['a', 's', 'c', 'i', 'i'] => some .ascii
  | ['b', 'l', 'a', 'n', 'k'] => some .blank
  | ['c', 'n', 't', 'r', 'l'] => some .cntrl
  | ['d', 'i', 'g', 'i', 't'] => some .digit
  | ['g', 'r', 'a', 'p', 'h'] => some .graph
  | ['l', 'o', 'w', 'e', 'r'] => some .lower
  | ['p', 'r', 'i', 'n', 't'] => some .print
  | ['p', 'u', 'n', 'c', 't'] => some .punct
  | ['s', 'p', 'a', 'c', 'e'] => some .space
  | ['u', 'p', 'p', 'e', 'r'] => some .upper
  | ['w', 'o', 'r', 'd'] => some .word
  | ['x', 'd', 'i', 'g', 'i', 't'] => some .xdigit
  | _ => none

end NamedClass

/-- A property of characters, named alone or with a value. -/
inductive PropertyQuery where
  | named (name : String)
  | valued (name value : String)
deriving DecidableEq, Repr

/-- The operators between the sets of a bracketed class. -/
inductive SetOperator where
  | intersection
  | difference
  | symmetricDifference
deriving DecidableEq, Repr

/-- What stands in the brackets of a class. -/
inductive ClassSet where
  | empty
  | literal (l : Literal)
  | range (lo hi : Literal)
  | short (kind : ShortClass) (negated : Bool)
  | named (kind : NamedClass) (negated : Bool)
  | property (query : PropertyQuery) (negated : Bool)
  | bracketed (negated : Bool) (set : ClassSet)
  | union (items : List ClassSet)
  | binary (op : SetOperator) (lhs rhs : ClassSet)
deriving Repr

namespace ClassSet

mutual

/-- How deeply brackets, unions and operators are nested. -/
def depth : ClassSet → Nat
  | bracketed _ set => set.depth + 1
  | union items => maxDepth items + 1
  | binary _ lhs rhs => max lhs.depth rhs.depth + 1
  | _ => 0

/-- The greatest depth in a list, 0 for the empty one. -/
def maxDepth : List ClassSet → Nat
  | [] => 0
  | set :: sets => max set.depth (maxDepth sets)

end

/-- The set of the items of a union, which is no union if there are fewer than two. -/
def ofItems : List ClassSet → ClassSet
  | [] => .empty
  | [item] => item
  | items => .union items

end ClassSet

/-! ## Expressions -/

/-- Tests that consume nothing. -/
inductive Assertion where
  | lineStart
  | lineEnd
  | textStart
  | textEnd
  | wordBoundary
  | notWordBoundary
  | wordStart
  | wordEnd
  | wordStartHalf
  | wordEndHalf
deriving DecidableEq, Repr

/-- What a pair of parentheses is for. -/
inductive GroupKind where
  | capturing (index : Nat)
  | flagged (change : FlagChange)
deriving DecidableEq, Repr

/-- A pattern as written. -/
inductive Ast where
  | empty
  | flags (change : FlagChange)
  | literal (l : Literal)
  | dot
  | assertion (a : Assertion)
  | short (kind : ShortClass) (negated : Bool)
  | property (query : PropertyQuery) (negated : Bool)
  | bracketed (negated : Bool) (set : ClassSet)
  | repetition (min : Nat) (max : Option Nat) (greedy : Bool) (sub : Ast)
  | group (kind : GroupKind) (sub : Ast)
  | alternation (alternatives : List Ast)
  | concat (parts : List Ast)
deriving Repr

namespace Ast

mutual

/-- How deeply groups, repetitions, lists and classes are nested. -/
def depth : Ast → Nat
  | bracketed _ set => set.depth + 1
  | repetition _ _ _ sub => sub.depth + 1
  | group _ sub => sub.depth + 1
  | alternation alternatives => maxDepth alternatives + 1
  | concat parts => maxDepth parts + 1
  | _ => 0

/-- The greatest depth in a list, 0 for the empty one. -/
def maxDepth : List Ast → Nat
  | [] => 0
  | a :: as => max a.depth (maxDepth as)

end

/-- The expressions one after another; no list for fewer than two. -/
def ofParts : List Ast → Ast
  | [] => .empty
  | [part] => part
  | parts => .concat parts

/-- The expressions to choose from; no list for fewer than two. -/
def ofAlternatives : List Ast → Ast
  | [] => .empty
  | [alternative] => alternative
  | alternatives => .alternation alternatives

/-- Whether a repetition operator has nothing to repeat here. -/
def isUnrepeatable : Ast → Bool
  | empty | flags _ => true
  | _ => false

end Ast

end Descent.Pattern
