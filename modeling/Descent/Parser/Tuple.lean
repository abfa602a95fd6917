import Descent.Parser.Run

/-!
# Sequences and choices of a fixed length

A sequence or a choice of a tuple of parsers is no loop: its code has one block for each part, one
after another. The block of a part of a sequence names the value of the part and the position behind
it for all blocks that follow, and the values are put together at the end. `followedBy` and `orElse`
are those of two.
-/

namespace Descent

namespace Parser

/-- The block of one part of a sequence. `values` are those that have been named before. -/
def sequenceBlock (part : Invoke) (rest : List Value → Invoke) (values : List Value) : Invoke :=
  fun position store =>
    (part position store).andThen fun outcome store =>
      match outcome.toMatch with
      | .ok (value, next) => rest (values ++ [value]) next store
      | .error failedAt => some (.ok (.failure failedAt), store)

/-- The block of one alternative of a choice. -/
def choiceBlock (alternative : Invoke) (rest : Invoke) : Invoke := fun position store =>
  (alternative position store).andThen fun outcome store =>
    if outcome.matched then some (.ok outcome, store) else rest position store

/-- Invokes a sequence of a tuple. -/
def runTuple (invoke : Parser → Invoke) (parts : List Parser) : Invoke :=
  parts.foldr (fun part => sequenceBlock (invoke part))
    (fun values position store => some (.ok (.success (.arr values) position), store)) []

/-- Invokes a choice of a tuple. -/
def runEither (invoke : Parser → Invoke) (alternatives : List Parser) : Invoke :=
  alternatives.foldr (fun alternative => choiceBlock (invoke alternative))
    fun position store => some (.ok (.failure position), store)

end Parser

end Descent
