/-!
# Sets of characters

A `CharSet` lists ranges of code points in ascending order, with a gap between any two of them, so
that two sets with the same members are equal. The surrogates have no characters: U+E000 follows
U+D7FF.
-/

namespace Descent

/-- A set of characters, as ranges of code points with both ends included. -/
structure CharSet where
  ranges : List (Nat × Nat)
deriving DecidableEq, Repr, Inhabited

namespace CharSet

/-! ## Code points -/

/-- The largest code point. -/
def lastCodePoint : Nat := 0x10FFFF

/-- The code point after `n`, stepping over the surrogates. -/
def after (n : Nat) : Nat := if n = 0xD7FF then 0xE000 else n + 1

/-- The code point before `n`, stepping over the surrogates. -/
def before (n : Nat) : Nat := if n = 0xE000 then 0xD7FF else n - 1

/-! ## Building sets -/

/-- Adds the range from `lo` to `hi`, merging the ranges that it overlaps or touches. -/
def insertRange (lo hi : Nat) : List (Nat × Nat) → List (Nat × Nat)
  | [] => [(lo, hi)]
  | (a, b) :: rest =>
    if after hi < a then (lo, hi) :: (a, b) :: rest
    else if after b < lo then (a, b) :: insertRange lo hi rest
    else insertRange (min lo a) (max hi b) rest

/-- The set with the characters of all the ranges, given in any order. -/
def ofRanges (ranges : List (Nat × Nat)) : CharSet :=
  ⟨ranges.foldr (fun range merged => insertRange range.1 range.2 merged) []⟩

/-- The set without members. -/
def empty : CharSet := ⟨[]⟩

/-- All characters. -/
def all : CharSet := ⟨[(0, lastCodePoint)]⟩

/-- The characters from `lo` to `hi`. -/
def range (lo hi : Char) : CharSet := ⟨[(lo.toNat, hi.toNat)]⟩

/-- The set with the one member `c`. -/
def singleton (c : Char) : CharSet := range c c

/-- The set with the listed members. -/
def ofList (cs : List Char) : CharSet := ofRanges (cs.map fun c => (c.toNat, c.toNat))

/-! ## Membership -/

/-- Whether `c` is a member. -/
def contains (s : CharSet) (c : Char) : Bool :=
  s.ranges.any fun (lo, hi) => lo ≤ c.toNat && c.toNat ≤ hi

/-- Whether there is no member. -/
def isEmpty (s : CharSet) : Bool := s.ranges.isEmpty

/-- Whether all members are ASCII characters. -/
def isAscii (s : CharSet) : Bool := s.ranges.all fun (_, hi) => hi ≤ 0x7F

/-! ## Operations -/

/-- The ranges that start at `next` or later and lie between the given ones. -/
def gaps (next : Nat) : List (Nat × Nat) → List (Nat × Nat)
  | [] => if next ≤ lastCodePoint then [(next, lastCodePoint)] else []
  | (lo, hi) :: rest =>
    if next < lo then (next, before lo) :: gaps (after hi) rest else gaps (after hi) rest

/-- The characters that are not in `s`. -/
def complement (s : CharSet) : CharSet := ⟨gaps 0 s.ranges⟩

/-- The characters in `s` or `t`. -/
def union (s t : CharSet) : CharSet :=
  ⟨s.ranges.foldr (fun range merged => insertRange range.1 range.2 merged) t.ranges⟩

/-- The characters in both `s` and `t`. -/
def inter (s t : CharSet) : CharSet := (s.complement.union t.complement).complement

/-- The characters in `s` and not in `t`. -/
def diff (s t : CharSet) : CharSet := (s.complement.union t).complement

/-- The characters in exactly one of `s` and `t`. -/
def symmDiff (s t : CharSet) : CharSet := (s.diff t).union (t.diff s)

/-- The characters in any of the sets. -/
def unions (sets : List CharSet) : CharSet := sets.foldr union empty

/-! ## Reading tables -/

/-- The value of a hexadecimal digit. -/
def hexValue? (c : Char) : Option Nat :=
  if '0' ≤ c && c ≤ '9' then some (c.toNat - '0'.toNat)
  else if 'a' ≤ c && c ≤ 'f' then some (c.toNat - 'a'.toNat + 10)
  else if 'A' ≤ c && c ≤ 'F' then some (c.toNat - 'A'.toNat + 10)
  else none

/-- Splits a text at blanks and line ends. -/
def words (word : List Char) : List Char → List (List Char)
  | [] => if word.isEmpty then [] else [word.reverse]
  | c :: cs =>
    if c = ' ' || c = '\n' then
      if word.isEmpty then words [] cs else word.reverse :: words [] cs
    else words (c :: word) cs

/-- The number that hexadecimal digits write. -/
def hexNumber (digits : List Char) : Nat :=
  digits.foldl (fun n c => 16 * n + (hexValue? c).getD 0) 0

/-- A range such as `41-5A`, or a single code point. -/
def rangeOfHex (word : List Char) : Nat × Nat :=
  let lo := word.takeWhile (· != '-')
  match word.drop lo.length with
  | [] => (hexNumber lo, hexNumber lo)
  | _ :: hi => (hexNumber lo, hexNumber hi)

/-- The set that a table lists as hexadecimal ranges in ascending order. -/
def ofHex (table : String) : CharSet := ⟨(words [] table.toList).map rangeOfHex⟩

end CharSet

end Descent
