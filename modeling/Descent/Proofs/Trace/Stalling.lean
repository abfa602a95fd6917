import Descent.Proofs.Trace.Repetition

/-!
# Repetitions that cannot stop

A repetition comes to an end where its body does not match. A body that always matches, an optional
one or a repetition, gives it no such place: it stalls just where the repetition of the plain body
stops (`Parser.many_never_gives_back`). Nor is there anything left to match behind a repetition for
what has been repeated.
-/

namespace Descent

/-- What a repetition comes to whose body matches where the plain one does not: it stalls at `n`, or
raises the error that the plain repetition raises. -/
def Step.stalling (n : Nat) : Step → Step
  | .ok _ => .error (.zeroWidthRepetition n)
  | .error error => .error error

namespace Parser

section
variable {input : List Char} {answer : Nat → Step} {p : Parser} {s : Store} {position last : Nat}
  {matched : List (Nat × Value)} {vs : List Value} {step : Step}

/-- A repetition that stops leaves the parser as steady as before. -/
theorem Steady.many_stops {o : Outcome Value} (hp : p.Steady input answer s)
    (hpos : position ≤ Text.byteLength input) (hstrides : Strides answer position matched last)
    (hlast : answer last = .ok o) (ho : o.matched = false) :
    ∃ t, (many p).invoke input position s =
        some (.ok (.success (.arr (matched.map Prod.snd)) last), t) ∧ p.Steady input answer t := by
  induction hstrides generalizing s with
  | nil =>
    obtain ⟨t, h, ht⟩ := hp.exists_invoke hpos
    rw [hlast] at h
    exact ⟨t, invoke_many_stop h ho, ht⟩
  | cons ha hlt _ ih =>
    obtain ⟨t, h, ht⟩ := hp.exists_invoke hpos
    rw [ha] at h
    obtain ⟨u, hu, hsteady⟩ := ih ht (hp.within hpos ha).2 hlast
    refine ⟨u, ?_, hsteady⟩
    rw [invoke_many_next h (Nat.ne_of_gt hlt), hu]
    rfl

/-- What is optional matches where the parser does, and where it does not, nothing. -/
theorem invoke_optional_of_ok {o : Outcome Value} {t : Store}
    (h : p.invoke input position s = some (.ok o, t)) :
    (optional p).invoke input position s = some (.ok (optionalOutcome position o), t) := by
  rw [invoke_optional, h]
  rfl

/-- A repetition of what is optional goes along the same chain of matches, and stalls at its end. -/
theorem Steady.many_optional_stalls (hp : p.Steady input answer s)
    (hpos : position ≤ Text.byteLength input) (hstrides : Strides answer position matched last)
    (hhalts : Halts answer vs last step) :
    ∃ t, (many (optional p)).invoke input position s = some (step.stalling last, t) := by
  induction hstrides generalizing s with
  | nil =>
    obtain ⟨t, h, -⟩ := hp.exists_invoke hpos
    cases hhalts with
    | @fails o ha ho =>
      rw [ha] at h
      have hnone := invoke_optional_of_ok h
      cases o with
      | success v next => cases ho
      | failure next | rejected v next => exact ⟨_, invoke_many_stall hnone⟩
    | stalls ha =>
      rw [ha] at h
      exact ⟨_, invoke_many_stall (invoke_optional_of_ok h)⟩
    | error ha =>
      rw [ha] at h
      refine ⟨t, invoke_many_error ?_⟩
      rw [invoke_optional, h]
      rfl
  | cons ha hlt _ ih =>
    obtain ⟨t, h, ht⟩ := hp.exists_invoke hpos
    rw [ha] at h
    obtain ⟨u, hu⟩ := ih ht (hp.within hpos ha).2 hhalts
    refine ⟨u, ?_⟩
    rw [invoke_many_next (invoke_optional_of_ok h) (Nat.ne_of_gt hlt), hu]
    cases hhalts <;> rfl

/-- A repetition within a repetition has nothing left to match where it has stopped once. -/
theorem Steady.many_many_stalls {o : Outcome Value} (hp : p.Steady input answer s)
    (hpos : position ≤ Text.byteLength input) (hstrides : Strides answer position matched last)
    (hlast : answer last = .ok o) (ho : o.matched = false) :
    ∃ t, (many (many p)).invoke input position s =
      some (.error (.zeroWidthRepetition last), t) := by
  obtain ⟨t, h, ht⟩ := hp.many_stops hpos hstrides hlast ho
  by_cases heq : last = position
  · subst heq
    exact ⟨_, invoke_many_stall h⟩
  · have hend : last ≤ Text.byteLength input := hp.le_length hpos hstrides
    obtain ⟨u, hu, -⟩ := ht.many_stops hend .nil hlast ho
    refine ⟨u.report (.repetitionStalled last), ?_⟩
    rw [invoke_many_next h heq, invoke_many_stall hu]
    rfl

/-- Behind a repetition there is nothing left for what has been repeated. -/
theorem Steady.sequence_fails {o : Outcome Value} (hp : p.Steady input answer s)
    (hpos : position ≤ Text.byteLength input) (hstrides : Strides answer position matched last)
    (hlast : answer last = .ok o) (ho : o.matched = false) :
    ∃ t, (sequence [many p, p]).invoke input position s = some (.ok (.failure o.next), t) := by
  obtain ⟨t, h, ht⟩ := hp.many_stops hpos hstrides hlast ho
  obtain ⟨u, hu, -⟩ := ht.exists_invoke (hp.le_length hpos hstrides)
  rw [hlast] at hu
  refine ⟨u, ?_⟩
  rw [invoke_sequence, runSequence, h, Result.andThen_ok]
  dsimp only
  rw [runSequence, hu, Result.andThen_ok]
  cases o with
  | success v next => cases ho
  | failure next | rejected v next => rfl

end

/-- A repetition of a steady parser stops where the parser does not match, or raises an error. In the
first case, repetitions of the optional parser and of the repetition itself stall at just that
position, and the parser behind its repetition fails as it does there. In the second case all three
raise the error. So none of them ever matches. -/
theorem many_never_gives_back (input : List Char) (answer : Nat → Step) (p : Parser) (s : Store)
    (position : Nat) (hp : p.Steady input answer s) (hpos : position ≤ Text.byteLength input) :
    (∃ vs n o t, (many p).invoke input position s = some (.ok (.success (.arr vs) n), t) ∧
      answer n = .ok o ∧ o.matched = false ∧
      (∃ t, (many (optional p)).invoke input position s =
        some (.error (.zeroWidthRepetition n), t)) ∧
      (∃ t, (many (many p)).invoke input position s =
        some (.error (.zeroWidthRepetition n), t)) ∧
      ∃ t, (sequence [many p, p]).invoke input position s = some (.ok (.failure o.next), t)) ∨
    ∃ error t, (many p).invoke input position s = some (.error error, t) ∧
      (∃ t, (many (optional p)).invoke input position s = some (.error error, t)) ∧
      (many (many p)).invoke input position s = some (.error error, t) ∧
      (sequence [many p, p]).invoke input position s = some (.error error, t) := by
  obtain ⟨step, t, -, matched, last, h, -, -, hstrides, hhalts⟩ := hp.exists_chain hpos
  obtain ⟨u, hoptional⟩ := hp.many_optional_stalls hpos hstrides hhalts
  have raises : ∀ error, step = .error error →
      (many (optional p)).invoke input position s = some (.error error, u) ∧
      (many (many p)).invoke input position s = some (.error error, t) ∧
      (sequence [many p, p]).invoke input position s = some (.error error, t) := by
    rintro error rfl
    refine ⟨hoptional, invoke_many_error h, ?_⟩
    rw [invoke_sequence, runSequence, h, Result.andThen_error]
  cases hhalts with
  | @fails o ha ho =>
    exact .inl ⟨_, last, o, t, h, ha, ho, ⟨u, hoptional⟩,
      hp.many_many_stalls hpos hstrides ha ho, hp.sequence_fails hpos hstrides ha ho⟩
  | stalls ha =>
    obtain ⟨hoptional, hmany, hsequence⟩ := raises _ rfl
    exact .inr ⟨_, t, h, ⟨u, hoptional⟩, hmany, hsequence⟩
  | error ha =>
    obtain ⟨hoptional, hmany, hsequence⟩ := raises _ rfl
    exact .inr ⟨_, t, h, ⟨u, hoptional⟩, hmany, hsequence⟩

/-- The two bytes are taken, and the label is what is missing behind them. -/
theorem many_never_gives_back_twoBytes :
    twoBytes.Steady "é!".toList twoBytesAnswer Store.empty ∧
      (∃ t, (many (optional twoBytes)).invoke "é!".toList 0 Store.empty =
        some (.error (.zeroWidthRepetition 2), t)) ∧
      (∃ t, (many (many twoBytes)).invoke "é!".toList 0 Store.empty =
        some (.error (.zeroWidthRepetition 2), t)) ∧
      ∃ t, (sequence [many twoBytes, twoBytes]).invoke "é!".toList 0 Store.empty =
        some (.ok (.failure 7), t) := by
  have hmany : (many twoBytes).invoke "é!".toList 0 Store.empty =
      some (.ok (.success (.arr [.num 0, .num 1]) 2), _) := invoke_eq_some_iff.2 ⟨5, rfl⟩
  obtain ⟨vs, n, o, t, h, ha, -, hoptional, hnested, hsequence⟩ | ⟨error, t, h, -⟩ :=
    many_never_gives_back "é!".toList twoBytesAnswer twoBytes Store.empty 0 steady_twoBytes
      (by decide)
  · rw [hmany] at h
    cases h
    cases ha
    exact ⟨steady_twoBytes, hoptional, hnested, hsequence⟩
  · rw [hmany] at h
    cases h

end Parser

end Descent
