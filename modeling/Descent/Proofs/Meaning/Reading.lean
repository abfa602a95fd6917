import Descent.Proofs.Meaning.Matches
import Descent.Proofs.Meaning.Session

/-!
# What readers answer

The answers of a reader in terms of what its grammar derives at the start of the input
(`Reader.parsePrefix_iff`, `Reader.parse_iff`), whatever the store it works on: a tracked reader
starts with a fresh record of failures, and one that is not tracked tells none.
-/

namespace Descent

/-! ## Answers -/

/-- What a reader makes of a step at the start of the input, with the farthest failure it tells. -/
def Step.prefixAnswer (farthest? : Option Farthest) : Step → Except ParseError (Value × Nat)
  | .error error => .error (.grammar error)
  | .ok (.success v next) => .ok (v, next)
  | .ok (.failure _) | .ok (.rejected _ _) => .error (.noMatch farthest?)

theorem Step.prefixAnswer_of_not_matched {o : Outcome Value} (h : o.matched = false)
    (farthest? : Option Farthest) :
    Step.prefixAnswer farthest? (.ok o) = .error (.noMatch farthest?) := by
  cases o <;> first | rfl | cases h

/-- What a reader makes of a match of the start of the input. -/
def ReaderOptions.complete (options : ReaderOptions) (input : List Char) :
    Except ParseError (Value × Nat) → Except ParseError Value
  | .error error => .error error
  | .ok (v, consumed) =>
    if options.requireComplete && consumed != Text.byteLength input then
      .error (.incomplete consumed (Text.byteLength input))
    else .ok v

theorem ReaderOptions.eq_noMatch_of_complete {options : ReaderOptions} {input : List Char}
    {first : Except ParseError (Value × Nat)} {farthest? : Option Farthest}
    (h : options.complete input first = .error (.noMatch farthest?)) :
    first = .error (.noMatch farthest?) := by
  unfold complete at h
  split at h
  · exact congrArg _ (Except.error.inj h)
  · split at h <;> cases h

namespace Reader

/-- The failure that the reader tells if these are recorded. -/
def told (reader : Reader) (failures : List Failure) : Option Farthest :=
  if reader.tracked then (Tracker.empty.recordAll failures).farthest? else none

/-- The store with which the reader starts. -/
def fresh (reader : Reader) (store : Store) : Store :=
  if reader.tracked then store.resetTracker else store

variable {reader : Reader} {input : List Char} {store : Store}

theorem parseAt_zero (parser : Parser) (input : List Char) (store : Store) :
    parseAt parser input 0 store = ofResult (parser.invoke input 0 store) := by
  simp [parseAt, Text.isBoundary]

theorem exists_parsePrefix_iff {answer : Except ParseError (Value × Nat)} :
    (∃ store', reader.parsePrefix input store = some (answer, store')) ↔
      ∃ step store', reader.parser.invoke input 0 (reader.fresh store) = some (step, store') ∧
        answer = step.prefixAnswer (if reader.tracked then store'.tracker.farthest? else none) := by
  simp only [parsePrefix, parseAt_zero]
  rw [show (if reader.tracked = true then store.resetTracker else store) = reader.fresh store
    from rfl]
  generalize reader.parser.invoke input 0 (reader.fresh store) = result
  constructor
  · rintro ⟨_, h⟩
    match result with
    | some (.error _, _) | some (.ok (.success _ _), _) | some (.ok (.failure _), _)
    | some (.ok (.rejected _ _), _) =>
      cases h
      exact ⟨_, _, rfl, rfl⟩
  · rintro ⟨step, store', rfl, rfl⟩
    match step with
    | .error _ | .ok (.success _ _) | .ok (.failure _) | .ok (.rejected _ _) => exact ⟨_, rfl⟩

theorem exists_parse_iff {answer : Except ParseError Value} :
    (∃ store', reader.parse input store = some (answer, store')) ↔
      ∃ first, (∃ store', reader.parsePrefix input store = some (first, store')) ∧
        answer = reader.options.complete input first := by
  unfold parse
  generalize reader.parsePrefix input store = result
  constructor
  · rintro ⟨_, h⟩
    match result with
    | some (.error _, _) =>
      cases h
      exact ⟨_, ⟨_, rfl⟩, rfl⟩
    | some (.ok (v, consumed), _) =>
      refine ⟨_, ⟨_, rfl⟩, ?_⟩
      simp only [andThen, ReaderOptions.complete] at h ⊢
      split at h <;> rename_i hc <;> cases h
      · rw [if_pos hc]
      · rw [if_neg hc]
  · rintro ⟨first, ⟨store', rfl⟩, rfl⟩
    match first with
    | .error _ => exact ⟨_, rfl⟩
    | .ok (v, consumed) =>
      simp only [andThen, ReaderOptions.complete]
      split <;> exact ⟨_, rfl⟩

/-- A source that does not match has no match at its start. -/
theorem exists_parsePrefix_of_parse {farthest? : Option Farthest}
    (h : ∃ store', reader.parse input store = some (.error (.noMatch farthest?), store')) :
    ∃ store', reader.parsePrefix input store = some (.error (.noMatch farthest?), store') := by
  obtain ⟨first, hfirst, hcomplete⟩ := exists_parse_iff.1 h
  rwa [ReaderOptions.eq_noMatch_of_complete hcomplete.symm] at hfirst

/-! ## Answers of grammars -/

section
variable {rules : Rules} {L : Legend} {E : List Nat} {c : Closure}
  (hb : Built rules L E reader.parser c) (hs : Sound rules [] L store)
include hb hs

/-- A reader answers what is derived at the start of the input. -/
theorem parsePrefix_iff {answer : Except ParseError (Value × Nat)} :
    (∃ store', reader.parsePrefix input store = some (answer, store')) ↔
      ∃ step failures, Derives rules input (.whole c) 0 step failures ∧
        answer = step.prefixAnswer (reader.told failures) := by
  have hs' : Sound rules [] L (reader.fresh store) := by
    unfold fresh
    split
    · exact hs.congr rfl rfl
    · exact hs
  have htold : ∀ {failures : List Failure} {store' : Store}, store'.tracker =
      (reader.fresh store).tracker.recordAll failures →
      (if reader.tracked then store'.tracker.farthest? else none) = reader.told failures := by
    intro failures store' ht
    unfold told
    split
    · rename_i h
      rw [ht, fresh, if_pos h]
      rfl
    · rfl
  rw [exists_parsePrefix_iff]
  constructor
  · rintro ⟨step, store', h, rfl⟩
    obtain ⟨L', failures, ha, hd⟩ := derives_of_invoke hb hs' h
    exact ⟨step, failures, hd, by rw [htold ha.tracker]⟩
  · rintro ⟨step, failures, hd, rfl⟩
    obtain ⟨L', store', h, ha⟩ := invoke_of_derives hb hs' hd
    exact ⟨step, store', h, by rw [htold ha.tracker]⟩

/-- The same where the options may ask for a match of the whole input. -/
theorem parse_iff {answer : Except ParseError Value} :
    (∃ store', reader.parse input store = some (answer, store')) ↔
      ∃ step failures, Derives rules input (.whole c) 0 step failures ∧
        answer = reader.options.complete input (step.prefixAnswer (reader.told failures)) := by
  simp only [exists_parse_iff, parsePrefix_iff hb hs]
  constructor
  · rintro ⟨first, ⟨step, failures, hd, rfl⟩, rfl⟩
    exact ⟨step, failures, hd, rfl⟩
  · rintro ⟨step, failures, hd, rfl⟩
    exact ⟨_, ⟨step, failures, hd, rfl⟩, rfl⟩

/-- A reader of whole inputs answers with the value of a match that reaches the end. -/
theorem parse_eq_ok_iff (ho : reader.options.requireComplete = true) {v : Value} :
    (∃ store', reader.parse input store = some (.ok v, store')) ↔
      Matches rules input c 0 v (Text.byteLength input) := by
  rw [parse_iff hb hs]
  constructor
  · rintro ⟨step, failures, hd, h⟩
    match step with
    | .ok (.success w next) =>
      simp only [Step.prefixAnswer, ReaderOptions.complete, ho, Bool.true_and] at h
      split at h
      · cases h
      · rename_i hn
        cases h
        rw [bne_iff_ne, ne_eq, Decidable.not_not] at hn
        rw [← hn]
        exact ⟨failures, hd⟩
    | .error _ | .ok (.failure _) | .ok (.rejected _ _) => cases h
  · rintro ⟨failures, hd⟩
    refine ⟨_, failures, hd, ?_⟩
    simp [Step.prefixAnswer, ReaderOptions.complete]

end

end Reader

end Descent
