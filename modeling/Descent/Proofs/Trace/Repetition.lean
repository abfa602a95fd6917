import Descent.Proofs.Trace.Equations

/-!
# Repetitions

A parser is `Steady` if its answers depend on the position only, and its matches neither go back nor
leave the input. A repetition of such a parser comes to an end: it invokes the parser along a chain
of matches that advance (`Strides`), and ends where there is no further one (`Halts`). What the
parser reports where it does not match plays no part (`Parser.many_follows_chain`).
-/

namespace Descent

/-! ## Chains of matches -/

/-- From the position on, the answers are matches that advance, the last one up to `last`. The
matches are listed with their starts. -/
inductive Strides (answer : Nat → Step) : Nat → List (Nat × Value) → Nat → Prop
  | nil {position : Nat} : Strides answer position [] position
  | cons {position next last : Nat} {v : Value} {matched : List (Nat × Value)} :
      answer position = .ok (.success v next) → position < next →
      Strides answer next matched last → Strides answer position ((position, v) :: matched) last

/-- What a repetition with these values comes to at the end of the chain of matches. -/
inductive Halts (answer : Nat → Step) (vs : List Value) (last : Nat) : Step → Prop
  | fails {o : Outcome Value} : answer last = .ok o → o.matched = false →
      Halts answer vs last (.ok (.success (.arr vs) last))
  | stalls {v : Value} : answer last = .ok (.success v last) →
      Halts answer vs last (.error (.zeroWidthRepetition last))
  | error {error : GrammarError} : answer last = .error error →
      Halts answer vs last (.error error)

/-- Where a repetition ends, there is no match that advances. -/
theorem Halts.next_eq {answer : Nat → Step} {vs : List Value} {last next : Nat} {step : Step}
    {v : Value} (h : Halts answer vs last step) (ha : answer last = .ok (.success v next)) :
    next = last := by
  cases h with
  | fails ho hm =>
    rw [ha] at ho
    cases ho
    cases hm
  | stalls hs =>
    rw [ha] at hs
    cases hs
    rfl
  | error he =>
    rw [ha] at he
    cases he

namespace Strides

variable {answer : Nat → Step} {position last : Nat} {matched : List (Nat × Value)}

theorem add_length_le (h : Strides answer position matched last) :
    position + matched.length ≤ last := by
  induction h with
  | nil => simp
  | cons _ hlt _ ih =>
    simp only [List.length_cons]
    omega

theorem start_le (h : Strides answer position matched last) :
    ∀ q ∈ matched.map Prod.fst ++ [last], position ≤ q := by
  induction h with
  | nil => simp
  | cons _ hlt _ ih =>
    intro q hq
    rcases List.mem_cons.1 hq with rfl | hq
    · exact Nat.le_refl _
    · exact Nat.le_of_lt (Nat.lt_of_lt_of_le hlt (ih q hq))

/-- Each match starts further on than the one before. -/
theorem pairwise (h : Strides answer position matched last) :
    (matched.map Prod.fst ++ [last]).Pairwise (· < ·) := by
  induction h with
  | nil => simp
  | cons _ hlt hrest ih =>
    rw [List.map_cons, List.cons_append, List.pairwise_cons]
    exact ⟨fun q hq => Nat.lt_of_lt_of_le hlt (hrest.start_le q hq), ih⟩

/-- There is one chain that ends where there is no further match. -/
theorem unique {matched' : List (Nat × Value)} {last' : Nat} {vs vs' : List Value}
    {step step' : Step} (h : Strides answer position matched last)
    (hl : Halts answer vs last step) (h' : Strides answer position matched' last')
    (hl' : Halts answer vs' last' step') : matched = matched' ∧ last = last' := by
  induction h generalizing matched' with
  | nil =>
    cases h' with
    | nil => exact ⟨rfl, rfl⟩
    | cons ha hlt _ =>
      have := hl.next_eq ha
      omega
  | cons ha hlt _ ih =>
    cases h' with
    | nil =>
      have := hl'.next_eq ha
      omega
    | cons ha' _ hrest' =>
      rw [ha] at ha'
      cases ha'
      obtain ⟨rfl, rfl⟩ := ih hl hrest'
      exact ⟨rfl, rfl⟩

end Strides

/-- The parser that is invoked, the position, and what it comes to. -/
def Trace.invocation? : Trace → Option (Parser × Nat × Step)
  | call p position _ step _ => some (p, position, step)
  | event _ | factory _ => none

namespace Parser

/-! ## Steady parsers -/

/-- The stores that invoking a parser at positions of an input leads to. -/
inductive Reaches (input : List Char) (p : Parser) (s : Store) : Store → Prop
  | refl : Reaches input p s s
  | step {t t' : Store} {position : Nat} {step : Step} : Reaches input p s t →
      position ≤ Text.byteLength input → p.invoke input position t = some (step, t') →
      Reaches input p s t'

/-- However often it has been invoked, the parser answers at each position of the input what
`answer` says, and its matches lie ahead and within the input. -/
structure Steady (input : List Char) (answer : Nat → Step) (p : Parser) (s : Store) : Prop where
  answers {t : Store} {position : Nat} : p.Reaches input s t → position ≤ Text.byteLength input →
    ∃ t', p.invoke input position t = some (answer position, t')
  within {position next : Nat} {v : Value} : position ≤ Text.byteLength input →
    answer position = .ok (.success v next) → position ≤ next ∧ next ≤ Text.byteLength input

section
variable {input : List Char} {answer : Nat → Step} {p : Parser} {s t : Store} {position : Nat}
  {step : Step}

theorem Reaches.head {u : Store} (hpos : position ≤ Text.byteLength input)
    (h : p.invoke input position s = some (step, t)) (hu : p.Reaches input t u) :
    p.Reaches input s u := by
  induction hu with
  | refl => exact .step .refl hpos h
  | step _ hpos' h' ih => exact .step ih hpos' h'

/-- An invocation answers as it should, and leaves the parser as steady as before. -/
theorem Steady.invoke (hp : p.Steady input answer s) (hpos : position ≤ Text.byteLength input)
    (h : p.invoke input position s = some (step, t)) :
    answer position = step ∧ p.Steady input answer t := by
  obtain ⟨t', ht⟩ := hp.answers .refl hpos
  rw [h] at ht
  cases ht
  exact ⟨rfl, fun hr => hp.answers (hr.head hpos h), hp.within⟩

/-- One invocation, and the store behind it. -/
theorem Steady.exists_invoke (hp : p.Steady input answer s)
    (hpos : position ≤ Text.byteLength input) :
    ∃ t, p.invoke input position s = some (answer position, t) ∧ p.Steady input answer t := by
  obtain ⟨t, h⟩ := hp.answers .refl hpos
  exact ⟨t, h, (hp.invoke hpos h).2⟩

/-- A chain of matches stays within the input. -/
theorem Steady.le_length {matched : List (Nat × Value)} {last : Nat}
    (hp : p.Steady input answer s) (hpos : position ≤ Text.byteLength input)
    (h : Strides answer position matched last) : last ≤ Text.byteLength input := by
  induction h with
  | nil => exact hpos
  | cons ha _ _ ih => exact ih (hp.within hpos ha).2

/-! ## Runs of repetitions -/

/-- What happens in a repetition of a steady parser. -/
theorem Steady.follows_of_traceMany {n fuel : Nat} {done : List Value} {ts : List Trace}
    (hp : p.Steady input answer s) (hpos : position ≤ Text.byteLength input)
    (h : traceMany (trace input n p) fuel done position s = some (step, t, ts)) :
    ∃ matched last, Strides answer position matched last ∧
      Halts answer (done.reverse ++ matched.map Prod.snd) last step ∧
      ts.filterMap Trace.invocation? =
        (matched.map Prod.fst ++ [last]).map fun q => (p, q, answer q) := by
  induction fuel generalizing done position s ts with
  | zero => cases h
  | succ fuel ih =>
    rw [traceMany] at h
    obtain ⟨error, he, rfl⟩ | ⟨o, s₁, ts₁, ts', ho, hnext, rfl⟩ := Traced.exists_of_andThen h
    · obtain ⟨inner, rfl, ht⟩ := exists_call_of_trace he
      obtain ⟨ha, -⟩ := hp.invoke hpos (invoke_iff_traces.2 ⟨inner, ht⟩)
      exact ⟨[], position, .nil, .error ha, by simp [Trace.invocation?, ha]⟩
    · obtain ⟨inner, rfl, ht⟩ := exists_call_of_trace ho
      obtain ⟨ha, hp₁⟩ := hp.invoke hpos (invoke_iff_traces.2 ⟨inner, ht⟩)
      -- a match that does not advance is the end, like a failure and a rejection
      cases o with
      | success v next =>
        dsimp only at hnext
        split at hnext
        · rename_i heq
          subst heq
          cases hnext
          exact ⟨[], next, .nil, .stalls ha, by simp [Trace.invocation?, ha]⟩
        · rename_i hne
          obtain ⟨hle, hlen⟩ := hp.within hpos ha
          obtain ⟨matched, last, hadv, hhalt, hts⟩ := ih hp₁ hlen hnext
          refine ⟨(position, v) :: matched, last, .cons ha (by omega) hadv, ?_, ?_⟩
          · simpa using hhalt
          · simp [Trace.invocation?, ha, hts]
      | failure next | rejected v next =>
        cases hnext
        exact ⟨[], position, .nil, by simpa using .fails ha rfl, by simp [Trace.invocation?, ha]⟩

/-- A repetition of a steady parser takes no more iterations than there are positions ahead. -/
theorem Steady.exists_invoke_many (hp : p.Steady input answer s)
    (hpos : position ≤ Text.byteLength input) :
    ∃ step t, (many p).invoke input position s = some (step, t) := by
  induction hn : Text.byteLength input - position using Nat.strongRecOn
    generalizing position s with
  | ind n ih =>
    obtain ⟨s₁, h, hp₁⟩ := hp.exists_invoke hpos
    cases ha : answer position with
    | error error =>
      rw [ha] at h
      exact ⟨_, _, invoke_many_error h⟩
    | ok o =>
      rw [ha] at h
      cases o with
      | failure next | rejected v next => exact ⟨_, _, invoke_many_stop h rfl⟩
      | success v next =>
        obtain ⟨hle, hlen⟩ := hp.within hpos ha
        by_cases heq : next = position
        · subst heq
          exact ⟨_, _, invoke_many_stall h⟩
        · obtain ⟨step, t, hrest⟩ := ih _ (by omega) hp₁ hlen rfl
          exact ⟨step.cons v, t, by rw [invoke_many_next h heq, hrest]; rfl⟩

/-- A repetition of a steady parser comes to an end, along a chain of matches. -/
theorem Steady.exists_chain (hp : p.Steady input answer s)
    (hpos : position ≤ Text.byteLength input) :
    ∃ step t inner matched last, (many p).invoke input position s = some (step, t) ∧
      (many p).Traces input position s inner step t ∧
      inner.filterMap Trace.invocation? =
        (matched.map Prod.fst ++ [last]).map (fun q => (p, q, answer q)) ∧
      Strides answer position matched last ∧ Halts answer (matched.map Prod.snd) last step := by
  obtain ⟨step, t, hi⟩ := hp.exists_invoke_many hpos
  obtain ⟨inner, ht⟩ := invoke_iff_traces.1 hi
  obtain ⟨n, s₁, hinside⟩ := ht.exists_inside
  obtain ⟨matched, last, hadv, hhalt, hinner⟩ := hp.follows_of_traceMany hpos hinside
  exact ⟨step, t, inner, matched, last, hi, ht, hinner, hadv, hhalt⟩

/-- A repetition of a steady parser comes to an end. It invokes the parser at positions that grow
from one to the next, no more than there are ahead: along a chain of matches, and once more where
the chain ends. What it comes to is decided there. -/
theorem many_follows_chain (input : List Char) (answer : Nat → Step) (p : Parser) (s : Store)
    (position : Nat) (hp : p.Steady input answer s) (hpos : position ≤ Text.byteLength input) :
    ∃ step t inner matched last,
      (many p).invoke input position s = some (step, t) ∧
      (many p).Traces input position s inner step t ∧
      inner.filterMap Trace.invocation? =
        (matched.map Prod.fst ++ [last]).map (fun q => (p, q, answer q)) ∧
      Strides answer position matched last ∧
      (matched.map Prod.fst ++ [last]).Pairwise (· < ·) ∧
      matched.length ≤ Text.byteLength input - position ∧
      Halts answer (matched.map Prod.snd) last step := by
  obtain ⟨step, t, inner, matched, last, hi, ht, hinner, hadv, hhalt⟩ := hp.exists_chain hpos
  have hlength : matched.length ≤ Text.byteLength input - position := by
    have := hadv.add_length_le
    have := hp.le_length hpos hadv
    omega
  exact ⟨step, t, inner, matched, last, hi, ht, hinner, hadv, hadv.pairwise, hlength, hhalt⟩

end

/-- Two matches of a byte each, the second one inside a character, and then a rejection that tells
of a position elsewhere. -/
def twoBytesAnswer (position : Nat) : Step :=
  if position < 2 then .ok (.success (.num position) (position + 1)) else .ok (.rejected .null 7)

def twoBytes : Parser := .labelled "byte" (.custom fun _ => twoBytesAnswer)

theorem steady_twoBytes : twoBytes.Steady "é!".toList twoBytesAnswer Store.empty := by
  constructor
  · intro t position _ _
    by_cases hlt : position < 2
    · refine ⟨t, invoke_eq_some_iff.2 ⟨2, ?_⟩⟩
      simp [twoBytes, run, recordFailure, twoBytesAnswer, hlt]
    · refine ⟨t.expect position "byte", invoke_eq_some_iff.2 ⟨2, ?_⟩⟩
      simp [twoBytes, run, recordFailure, twoBytesAnswer, hlt]
  · intro position next v _ ha
    have hlength : Text.byteLength "é!".toList = 3 := by decide
    unfold twoBytesAnswer at ha
    split at ha <;> cases ha
    omega

/-- The repetition ends behind the two bytes, and the label is recorded there. -/
theorem many_follows_chain_twoBytes :
    ∃ t inner, twoBytes.Steady "é!".toList twoBytesAnswer Store.empty ∧
      (many twoBytes).invoke "é!".toList 0 Store.empty =
        some (.ok (.success (.arr [.num 0, .num 1]) 2), t) ∧
      (many twoBytes).Traces "é!".toList 0 Store.empty inner
        (.ok (.success (.arr [.num 0, .num 1]) 2)) t ∧
      (inner.filterMap Trace.invocation?).map (fun call => call.2.1) = [0, 1, 2] := by
  obtain ⟨step, t, inner, matched, last, hi, ht, hinner, hadv, -, -, hhalt⟩ :=
    many_follows_chain "é!".toList twoBytesAnswer twoBytes Store.empty 0 steady_twoBytes (by decide)
  have hchain : Strides twoBytesAnswer 0 [(0, .num 0), (1, .num 1)] 2 :=
    .cons rfl (by decide) (.cons rfl (by decide) .nil)
  have hend : Halts twoBytesAnswer [.num 0, .num 1] 2 (.ok (.success (.arr [.num 0, .num 1]) 2)) :=
    .fails rfl rfl
  obtain ⟨rfl, rfl⟩ := hadv.unique hhalt hchain hend
  cases hhalt with
  | fails => exact ⟨t, inner, steady_twoBytes, hi, ht, by simp [hinner]⟩
  | stalls h | error h => cases h

end Parser

end Descent
