import Descent.Pattern.Expr

/-!
# Footprints

Counted repetitions multiply the size of a pattern, so patterns are limited by the memory that their
automaton over bytes takes. `Expr.footprint` finds it without building the automaton: a class takes
the states of the byte sequences of its characters, and a repetition takes its body once for each
iteration that it may have.
-/

namespace Descent.Pattern

/-! ## Byte sequences -/

/-- The bytes that encode a code point. -/
def encodedBytes (c : Nat) : List Nat :=
  let continuation (n : Nat) : Nat := 0x80 + n % 64
  if c < 0x80 then [c]
  else if c < 0x800 then [0xC0 + c / 64, continuation c]
  else if c < 0x10000 then [0xE0 + c / 4096, continuation (c / 64), continuation c]
  else [0xF0 + c / 262144, continuation (c / 4096), continuation (c / 64), continuation c]

/-- Where a range has to be cut so that each byte of its characters has a range of its own: where
the number of bytes grows, or at the ends of the blocks that share their first bytes. -/
def cut? (lo hi : Nat) : Option Nat :=
  let atLength := [0x80, 0x800, 0x10000].find? fun n => lo < n && n ≤ hi
  let atBlock (block : Nat) : Option Nat :=
    if lo / block = hi / block then none
    else if lo % block ≠ 0 then some ((lo / block + 1) * block)
    else if (hi + 1) % block ≠ 0 then some (hi / block * block)
    else none
  if hi < 0x80 then none
  else atLength.or ([64, 4096, 262144].findSome? atBlock)

/-- The byte sequences of the characters from `lo` to `hi`, as ranges for each byte. A range is cut
fewer than sixteen times in a row. -/
def byteSequences : Nat → Nat → Nat → List (List (Nat × Nat))
  | 0, _, _ => []
  | depth + 1, lo, hi =>
    match cut? lo hi with
    | some c => byteSequences depth lo (c - 1) ++ byteSequences depth c hi
    | none => [(encodedBytes lo).zip (encodedBytes hi)]

/-- The length of the longest list that both start with. -/
def sharedLength : List (Nat × Nat) → List (Nat × Nat) → Nat
  | x :: xs, y :: ys => if x = y then sharedLength xs ys + 1 else 0
  | _, _ => 0

/-- The number of states of sequences that each share the states of their start with the one
before. -/
def sequenceStates (before : List (Nat × Nat)) : List (List (Nat × Nat)) → Nat
  | [] => 0
  | bytes :: rest => (bytes.length - sharedLength before bytes) + sequenceStates bytes rest

/-! ## Footprints -/

/-- The bytes that one state takes. -/
def stateBytes : Nat := 32

/-- The bytes that a way out of a state takes, where a state may have several. -/
def branchBytes : Nat := 4

/-- The bytes that the states of a choice between ranges of characters take. -/
def rangesFootprint (ranges : List (Nat × Nat)) : Nat :=
  if ranges.all (·.2 < 0x80) then 2 * stateBytes + 2 * branchBytes * ranges.length
  else
    let sequences := ranges.flatMap fun (lo, hi) =>
      if lo ≤ 0xD7FF && 0xE000 ≤ hi then byteSequences 16 lo 0xD7FF ++ byteSequences 16 0xE000 hi
      else byteSequences 16 lo hi
    (2 + sequenceStates [] sequences) * stateBytes + sequences.length * branchBytes

/-- The bytes that the states of a class take. -/
def classFootprint (set : CharSet) : Nat :=
  match set.ranges with
  | [] => stateBytes
  | [(lo, hi)] =>
    if lo = hi then stateBytes * (encodedBytes lo).length
    else rangesFootprint [(lo, hi)]
  | ranges => rangesFootprint ranges

/-- The bytes that a repetition takes if its body takes `body`. -/
def repetitionFootprint (min : Nat) (max : Option Nat) (consumes : Bool) (body : Nat) : Nat :=
  let choice := stateBytes + 2 * branchBytes
  match min, max with
  | 0, none => if consumes then choice + body else 2 * choice + stateBytes + body
  | min, none => min * body + choice
  | 0, some 0 => stateBytes
  | min, some max =>
    if max ≤ min then min * body else min * body + (max - min) * (choice + body) + stateBytes

namespace Expr

mutual

/-- The bytes that the states of an expression take. -/
def footprint : Expr → Nat
  | empty => stateBytes
  | chars set => classFootprint set
  | look _ => stateBytes
  | rep min max _ sub => repetitionFootprint min max sub.consumes sub.footprint
  | group _ sub => sub.footprint + 2 * stateBytes
  | cat parts => footprints parts
  | alt alternatives =>
    footprints alternatives + 2 * stateBytes + alternatives.length * branchBytes

/-- The bytes of several expressions. -/
def footprints : List Expr → Nat
  | [] => 0
  | e :: es => e.footprint + footprints es

end

end Expr

/-- The bytes that the states of a pattern may take: ten mebibytes. -/
def footprintLimit : Nat := 10485760

end Descent.Pattern
