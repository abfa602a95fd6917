import Descent.Pattern.Ast
import Descent.Pattern.Expr
import Descent.Unicode.Property

/-!
# What a pattern means under flags

`Ast.toExpr?` applies the flags to a pattern as written. A flag group changes the flags up to the
end of the group around it, also beyond a bar. Patterns are about characters: what could match a
part of one, which is possible without the flag `u`, has no meaning.
-/

namespace Descent.Pattern

/-- The flags that decide what a pattern means. -/
structure Flags where
  ignoreCase : Bool := false
  multiLine : Bool := false
  dotAll : Bool := false
  swapGreed : Bool := false
  unicode : Bool := true
  crlf : Bool := false
deriving DecidableEq, Repr

namespace Flags

/-- The flags after a flag group. -/
def after (flags : Flags) (change : FlagChange) : Flags where
  ignoreCase := change.apply .ignoreCase flags.ignoreCase
  multiLine := change.apply .multiLine flags.multiLine
  dotAll := change.apply .dotAll flags.dotAll
  swapGreed := change.apply .swapGreed flags.swapGreed
  unicode := change.apply .unicode flags.unicode
  crlf := change.apply .crlf flags.crlf

/-- The set closed under case if the flags ask for that: simple case folding, or ASCII letters
where the pattern is not about Unicode. -/
def fold (flags : Flags) (set : CharSet) : CharSet :=
  if !flags.ignoreCase then set
  else if flags.unicode then Unicode.foldCase set
  else Unicode.foldAsciiCase set

/-- The set as a class. Without Unicode it has to keep to ASCII. -/
def checked? (flags : Flags) (set : CharSet) : Option CharSet :=
  if flags.unicode || set.isAscii then some set else none

/-- The set or its complement; folding comes first. -/
def signed? (flags : Flags) (negated : Bool) (set : CharSet) : Option CharSet :=
  let folded := flags.fold set
  flags.checked? (if negated then folded.complement else folded)

end Flags

/-! ## Classes -/

namespace ShortClass

/-- The characters of the class. -/
def set (unicode : Bool) : ShortClass → CharSet
  | digit => if unicode then Unicode.digit else ⟨[(0x30, 0x39)]⟩
  | space => if unicode then Unicode.whiteSpace else ⟨[(0x09, 0x0D), (0x20, 0x20)]⟩
  | word =>
    if unicode then Unicode.word
    else ⟨[(0x30, 0x39), (0x41, 0x5A), (0x5F, 0x5F), (0x61, 0x7A)]⟩

/-- The class or its complement. Both are closed under case, so there is nothing to fold. -/
def signed? (flags : Flags) (kind : ShortClass) (negated : Bool) : Option CharSet :=
  let members := kind.set flags.unicode
  flags.checked? (if negated then members.complement else members)

end ShortClass

namespace NamedClass

/-- The characters of the class, which are ASCII. -/
def set : NamedClass → CharSet
  | alnum => ⟨[(0x30, 0x39), (0x41, 0x5A), (0x61, 0x7A)]⟩
  | alpha => ⟨[(0x41, 0x5A), (0x61, 0x7A)]⟩
  | ascii => ⟨[(0x00, 0x7F)]⟩
  | blank => ⟨[(0x09, 0x09), (0x20, 0x20)]⟩
  | cntrl => ⟨[(0x00, 0x1F), (0x7F, 0x7F)]⟩
  | digit => ⟨[(0x30, 0x39)]⟩
  | graph => ⟨[(0x21, 0x7E)]⟩
  | lower => ⟨[(0x61, 0x7A)]⟩
  | print => ⟨[(0x20, 0x7E)]⟩
  | punct => ⟨[(0x21, 0x2F), (0x3A, 0x40), (0x5B, 0x60), (0x7B, 0x7E)]⟩
  | space => ⟨[(0x09, 0x0D), (0x20, 0x20)]⟩
  | upper => ⟨[(0x41, 0x5A)]⟩
  | word => ⟨[(0x30, 0x39), (0x41, 0x5A), (0x5F, 0x5F), (0x61, 0x7A)]⟩
  | xdigit => ⟨[(0x30, 0x39), (0x41, 0x46), (0x61, 0x66)]⟩

end NamedClass

namespace PropertyQuery

/-- The characters that have the property, if there is one of that name. -/
def set? : PropertyQuery → Option CharSet
  | named name => Unicode.property? name
  | valued name value => Unicode.propertyValue? name value

end PropertyQuery

/-- The class of a property, which only Unicode patterns have. -/
def propertySet? (flags : Flags) (query : PropertyQuery) (negated : Bool) : Option CharSet :=
  if flags.unicode then query.set? >>= flags.signed? negated else none

/-- The character that a literal stands for. Without Unicode, an escaped byte beyond ASCII is no
character. -/
def Literal.char? (flags : Flags) (l : Literal) : Option Char :=
  if !flags.unicode && l.isByte && 0x7F < l.char.toNat then none else some l.char

/-- The character that a literal stands for in a class, which without Unicode is ASCII. -/
def Literal.classChar? (flags : Flags) (l : Literal) : Option Char :=
  if flags.unicode || l.char.toNat ≤ 0x7F then some l.char else none

namespace SetOperator

/-- The operator on sets. -/
def apply : SetOperator → CharSet → CharSet → CharSet
  | intersection => CharSet.inter
  | difference => CharSet.diff
  | symmetricDifference => CharSet.symmDiff

end SetOperator

namespace ClassSet

mutual

/-- The characters of a class. The sides of an operator are folded before it is applied. -/
def set? (flags : Flags) : ClassSet → Option CharSet
  | empty => some CharSet.empty
  | literal l => (l.classChar? flags).map CharSet.singleton
  | range lo hi => do
    let lo ← lo.classChar? flags
    let hi ← hi.classChar? flags
    some (CharSet.range lo hi)
  | short kind negated => kind.signed? flags negated
  | named kind negated => flags.signed? negated kind.set
  | property query negated => propertySet? flags query negated
  | bracketed negated inner => do flags.signed? negated (← inner.set? flags)
  | union items => unionSet? flags items
  | binary op lhs rhs => do
    let lhs ← lhs.set? flags
    let rhs ← rhs.set? flags
    some (op.apply (flags.fold lhs) (flags.fold rhs))

/-- The characters of any of the items. -/
def unionSet? (flags : Flags) : List ClassSet → Option CharSet
  | [] => some CharSet.empty
  | item :: items => do
    let first ← item.set? flags
    let others ← unionSet? flags items
    some (first.union others)

end

end ClassSet

/-! ## Assertions -/

namespace Assertion

/-- The test that an assertion makes under the flags. -/
def look (flags : Flags) : Assertion → Look
  | lineStart =>
    if !flags.multiLine then .textStart else if flags.crlf then .crlfLineStart else .lineStart
  | lineEnd =>
    if !flags.multiLine then .textEnd else if flags.crlf then .crlfLineEnd else .lineEnd
  | textStart => .textStart
  | textEnd => .textEnd
  | wordBoundary => .wordBoundary !flags.unicode
  | notWordBoundary => .notWordBoundary !flags.unicode
  | wordStart => .wordStart !flags.unicode
  | wordEnd => .wordEnd !flags.unicode
  | wordStartHalf => .wordStartHalf !flags.unicode
  | wordEndHalf => .wordEndHalf !flags.unicode

end Assertion

/-! ## Expressions -/

/-- The characters that a dot matches: all but line feeds, or but line feeds and carriage returns,
unless it matches all. It is about whole characters. -/
def dotSet? (flags : Flags) : Option CharSet :=
  if !flags.unicode then none
  else if flags.dotAll then some CharSet.all
  else if flags.crlf then some (CharSet.ofList ['\n', '\r']).complement
  else some (CharSet.singleton '\n').complement

namespace Ast

mutual

/-- The expression that a pattern means, and the flags after it. -/
def toExpr? (flags : Flags) : Ast → Option (Expr × Flags)
  | empty => some (.empty, flags)
  | Ast.flags change => some (.empty, flags.after change)
  | literal l => do
    let c ← l.char? flags
    some (.chars (flags.fold (CharSet.singleton c)), flags)
  | dot => do some (.chars (← dotSet? flags), flags)
  | assertion a => some (.look (a.look flags), flags)
  | short kind negated => do some (.chars (← kind.signed? flags negated), flags)
  | property query negated => do some (.chars (← propertySet? flags query negated), flags)
  | bracketed negated inner => do
    some (.chars (← flags.signed? negated (← inner.set? flags)), flags)
  | repetition min max greedy sub => do
    let (sub, after) ← sub.toExpr? flags
    some (.ofRep min max (greedy != after.swapGreed) sub, after)
  | group (.capturing index) sub => do
    let (sub, _) ← sub.toExpr? flags
    some (.group index sub, flags)
  | group (.flagged change) sub => do
    let (sub, _) ← sub.toExpr? (flags.after change)
    some (sub, flags)
  | alternation alternatives => do
    let (es, after) ← toExprs? flags alternatives
    some (.ofAlternatives es, after)
  | concat parts => do
    let (es, after) ← toExprs? flags parts
    some (.ofParts es, after)

/-- The expressions of a list, each under the flags that the ones before it leave. -/
def toExprs? (flags : Flags) : List Ast → Option (List Expr × Flags)
  | [] => some ([], flags)
  | a :: as => do
    let (e, next) ← a.toExpr? flags
    let (es, last) ← toExprs? next as
    some (e :: es, last)

end

end Ast

end Descent.Pattern
