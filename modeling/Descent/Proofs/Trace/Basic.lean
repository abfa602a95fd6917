import Descent.Proofs.Meaning.Adequacy
import Descent.Proofs.Parser.Building

/-!
# What happens in a run

`Parser.trace` runs a parser as `Parser.run` does and keeps all that happens on the way as a tree: an
invocation with the invocations, events and factories inside it. `Trace.momentsAll` is the same in the
order of time, where an invocation is entered and left again. Forgetting the tree gives the run
(`forget_trace`), so that every invocation that comes to an end has one (`invoke_iff_traces`).

A label has no place of its own in the tree: it is recorded when a labelled parser that has failed
is left (`Parser.conclude`).
-/

namespace Descent

/-! ## Traces -/

/-- Something that happens in a run. -/
inductive Trace where
  /-- An invocation: what happens in it, what it comes to, and the store that it leaves behind. -/
  | call (parser : Parser) (position : Nat) (inner : List Trace) (step : Step) (store : Store)
  | event (event : Event)
  /-- The factory of a cell starts. -/
  | factory (cell : Nat)

/-- A point in time at which something happens. -/
inductive Moment where
  | entered (parser : Parser) (position : Nat)
  | left (parser : Parser) (position : Nat) (step : Step) (store : Store)
  | reported (event : Event)
  | started (cell : Nat)

namespace Trace

mutual

/-- What happens, in order. -/
def moments : Trace → List Moment
  | call p position inner step store =>
    .entered p position :: (momentsAll inner ++ [.left p position step store])
  | event e => [.reported e]
  | factory cell => [.started cell]

def momentsAll : List Trace → List Moment
  | [] => []
  | t :: ts => t.moments ++ momentsAll ts

end

@[simp] theorem momentsAll_nil : momentsAll [] = [] := rfl

@[simp] theorem momentsAll_cons (t : Trace) (ts : List Trace) :
    momentsAll (t :: ts) = t.moments ++ momentsAll ts := rfl

@[simp] theorem momentsAll_append (ts us : List Trace) :
    momentsAll (ts ++ us) = momentsAll ts ++ momentsAll us := by
  induction ts with
  | nil => rfl
  | cons t ts ih => simp [ih]

@[simp] theorem moments_event (e : Event) : (event e).moments = [.reported e] := rfl

@[simp] theorem moments_factory (cell : Nat) : (factory cell).moments = [.started cell] := rfl

@[simp] theorem momentsAll_replicate_event (n : Nat) (e : Event) :
    momentsAll (List.replicate n (event e)) = List.replicate n (.reported e) := by
  induction n with
  | zero => rfl
  | succ n ih => simp [List.replicate_succ, ih]

theorem moments_call (p : Parser) (position : Nat) (inner : List Trace) (step : Step)
    (store : Store) :
    (call p position inner step store).moments =
      .entered p position :: (momentsAll inner ++ [.left p position step store]) := rfl

/-- `t.Among ts`: it is one of the traces, or happens in one of them. -/
inductive Among (t : Trace) : List Trace → Prop
  | here {ts : List Trace} : t ∈ ts → Among t ts
  | inside {p : Parser} {position : Nat} {inner : List Trace} {step : Step} {store : Store}
      {ts : List Trace} : call p position inner step store ∈ ts → Among t inner → Among t ts

theorem among_append_iff {t : Trace} {ts us : List Trace} :
    t.Among (ts ++ us) ↔ t.Among ts ∨ t.Among us := by
  constructor
  · rintro (h | ⟨h, hi⟩) <;> rcases List.mem_append.1 h with h | h
    exacts [.inl (.here h), .inr (.here h), .inl (.inside h hi), .inr (.inside h hi)]
  · rintro ((h | ⟨h, hi⟩) | (h | ⟨h, hi⟩))
    exacts [.here (List.mem_append_left _ h), .inside (List.mem_append_left _ h) hi,
      .here (List.mem_append_right _ h), .inside (List.mem_append_right _ h) hi]

theorem among_call_iff {t : Trace} {p : Parser} {position : Nat} {inner : List Trace} {step : Step}
    {store : Store} :
    t.Among [call p position inner step store] ↔
      t = call p position inner step store ∨ t.Among inner := by
  constructor
  · rintro (h | ⟨h, hi⟩)
    · exact .inl (List.mem_singleton.1 h)
    · cases List.mem_singleton.1 h
      exact .inr hi
  · rintro (rfl | h)
    · exact .here List.mem_cons_self
    · exact .inside List.mem_cons_self h

/-- The moments that are about the trace itself and nothing inside it. -/
def ownMoments : Trace → List Moment
  | call p position _ step store => [.entered p position, .left p position step store]
  | event e => [.reported e]
  | factory cell => [.started cell]

theorem mem_momentsAll_of_mem {t : Trace} {ts : List Trace} {m : Moment} (h : t ∈ ts)
    (hm : m ∈ t.moments) : m ∈ momentsAll ts := by
  induction ts with
  | nil => cases h
  | cons t' ts ih =>
    rw [momentsAll_cons, List.mem_append]
    rcases List.mem_cons.1 h with rfl | h
    · exact .inl hm
    · exact .inr (ih h)

theorem mem_moments_of_own {t : Trace} {m : Moment} (h : m ∈ t.ownMoments) : m ∈ t.moments := by
  cases t with
  | call p position inner step store =>
    simp only [ownMoments, List.mem_cons, List.not_mem_nil, or_false] at h
    rw [moments_call]
    rcases h with rfl | rfl <;> simp
  | event e | factory cell => exact h

/-- What happens among traces is one of them, or happens at once in an invocation among them. -/
theorem Among.mem_or_exists {t : Trace} {ts : List Trace} (h : t.Among ts) :
    t ∈ ts ∨ ∃ p position inner step store, (call p position inner step store).Among ts ∧
      t ∈ inner := by
  induction h with
  | here h => exact .inl h
  | inside h _ ih =>
    obtain ht | ⟨p, position, inner, step, store, hc, ht⟩ := ih
    · exact .inr ⟨_, _, _, _, _, .here h, ht⟩
    · exact .inr ⟨p, position, inner, step, store, .inside h hc, ht⟩

theorem Among.trans {t : Trace} {p : Parser} {position : Nat} {inner : List Trace} {step : Step}
    {store : Store} {ts : List Trace} (h : (call p position inner step store).Among ts)
    (ht : t.Among inner) : t.Among ts := by
  induction h with
  | here h => exact .inside h ht
  | inside h _ ih => exact .inside h ih

mutual

theorem exists_of_mem_moments {m : Moment} :
    ∀ t : Trace, m ∈ t.moments → ∃ t' : Trace, t'.Among [t] ∧ m ∈ t'.ownMoments
  | call p position inner step store, h => by
    rw [moments_call, List.mem_cons, List.mem_append, List.mem_singleton] at h
    have own : m = .entered p position ∨ m = .left p position step store →
        ∃ t' : Trace, t'.Among [call p position inner step store] ∧ m ∈ t'.ownMoments :=
      fun h => ⟨_, .here List.mem_cons_self, by simpa [ownMoments] using h⟩
    obtain h | h | h := h
    · exact own (.inl h)
    · obtain ⟨t', ht, hm⟩ := exists_of_mem_momentsAll inner h
      exact ⟨t', .inside List.mem_cons_self ht, hm⟩
    · exact own (.inr h)
  | event e, h => ⟨_, .here List.mem_cons_self, h⟩
  | factory cell, h => ⟨_, .here List.mem_cons_self, h⟩

theorem exists_of_mem_momentsAll {m : Moment} :
    ∀ ts : List Trace, m ∈ momentsAll ts → ∃ t : Trace, t.Among ts ∧ m ∈ t.ownMoments
  | [], h => nomatch h
  | t :: ts, h => by
    rw [momentsAll_cons, List.mem_append] at h
    rw [← List.singleton_append]
    obtain h | h := h
    · obtain ⟨t', ht, hm⟩ := exists_of_mem_moments t h
      exact ⟨t', among_append_iff.2 (.inl ht), hm⟩
    · obtain ⟨t', ht, hm⟩ := exists_of_mem_momentsAll ts h
      exact ⟨t', among_append_iff.2 (.inr ht), hm⟩

end

/-- The moments of traces are those that are about something among them. -/
theorem mem_momentsAll_iff {m : Moment} {ts : List Trace} :
    m ∈ momentsAll ts ↔ ∃ t : Trace, t.Among ts ∧ m ∈ t.ownMoments := by
  refine ⟨exists_of_mem_momentsAll ts, ?_⟩
  rintro ⟨t, h, hm⟩
  induction h with
  | here h => exact mem_momentsAll_of_mem h (mem_moments_of_own hm)
  | inside h _ ih => exact mem_momentsAll_of_mem h (by rw [moments_call]; simp [ih])

/-- An invocation is left. -/
theorem left_mem_momentsAll {p : Parser} {position : Nat} {inner : List Trace} {step : Step}
    {store : Store} {ts : List Trace} (h : (call p position inner step store).Among ts) :
    .left p position step store ∈ momentsAll ts :=
  mem_momentsAll_iff.2 ⟨_, h, by simp [ownMoments]⟩

theorem reported_mem_momentsAll_iff {e : Event} {ts : List Trace} :
    .reported e ∈ momentsAll ts ↔ (event e).Among ts := by
  rw [mem_momentsAll_iff]
  constructor
  · rintro ⟨t, h, hm⟩
    cases t <;> simp [ownMoments] at hm
    rwa [hm]
  · exact fun h => ⟨_, h, List.mem_cons_self⟩

end Trace

/-! ## What moments are about -/

/-- The failure that is recorded where a parser is left: a labelled one has answered no match. -/
def Parser.failure? (position : Nat) (step : Step) : Parser → Option Failure
  | labelled label _ =>
    match step with
    | .ok outcome => if outcome.matched then none else some ⟨position, label⟩
    | .error _ => none
  | _ => none

namespace Moment

/-- The event that is reported. -/
@[simp] def event? : Moment → Option Event
  | reported e => some e
  | entered _ _ | left _ _ _ _ | started _ => none

/-- The failure that is recorded. -/
@[simp] def failure? : Moment → Option Failure
  | left p position step _ => p.failure? position step
  | entered _ _ | reported _ | started _ => none

/-- The cell whose factory starts. -/
@[simp] def cell? : Moment → Option Nat
  | started cell => some cell
  | entered _ _ | left _ _ _ _ | reported _ => none

end Moment

namespace Trace

/-- The events reported, in order. -/
def events (ts : List Trace) : List Event := (momentsAll ts).filterMap Moment.event?

/-- The failures recorded, in order. -/
def failures (ts : List Trace) : List Failure := (momentsAll ts).filterMap Moment.failure?

/-- The cells whose factories start, in order. -/
def started (ts : List Trace) : List Nat := (momentsAll ts).filterMap Moment.cell?

theorem mem_events_iff {e : Event} {ts : List Trace} : e ∈ events ts ↔ (event e).Among ts := by
  rw [← reported_mem_momentsAll_iff, events, List.mem_filterMap]
  constructor
  · rintro ⟨m, hm, he⟩
    cases m <;> simp at he
    rwa [← he]
  · exact fun h => ⟨_, h, rfl⟩

section
variable (ts us : List Trace) (p : Parser) (position : Nat) (step : Step) (store : Store)

@[simp] theorem events_append : events (ts ++ us) = events ts ++ events us := by
  simp [events]

@[simp] theorem failures_append : failures (ts ++ us) = failures ts ++ failures us := by
  simp [failures]

@[simp] theorem started_append : started (ts ++ us) = started ts ++ started us := by
  simp [started]

@[simp] theorem events_call : events [call p position ts step store] = events ts := by
  simp [events, moments_call, List.filterMap_cons]

@[simp] theorem failures_call :
    failures [call p position ts step store] = failures ts ++ (p.failure? position step).toList := by
  cases h : p.failure? position step <;> simp [failures, moments_call, List.filterMap_cons, h]

@[simp] theorem started_call : started [call p position ts step store] = started ts := by
  simp [started, moments_call, List.filterMap_cons]

end

end Trace

/-! ## Traced results -/

/-- A result with all that has happened. -/
abbrev Traced := Option (Step × Store × List Trace)

/-- How a parser is invoked at a position, with all that happens. -/
abbrev Tracing := Nat → Store → Traced

namespace Traced

/-- The result. -/
def forget (result : Traced) : Result := result.map fun (step, store, _) => (step, store)

/-- Puts in front what has happened before. -/
def after (ts : List Trace) (result : Traced) : Traced :=
  result.map fun (step, store, us) => (step, store, ts ++ us)

/-- Goes on with an outcome; an error is the end. -/
def andThen (result : Traced) (next : Outcome Value → Store → Traced) : Traced :=
  match result with
  | none => none
  | some (.error error, store, ts) => some (.error error, store, ts)
  | some (.ok outcome, store, ts) => (next outcome store).after ts

/-- Changes the outcome. -/
def mapOutcome (f : Outcome Value → Outcome Value) (result : Traced) : Traced :=
  result.andThen fun outcome store => some (.ok (f outcome), store, [])

@[simp] theorem forget_some (step : Step) (store : Store) (ts : List Trace) :
    forget (some (step, store, ts)) = some (step, store) := rfl

@[simp] theorem forget_after (ts : List Trace) (result : Traced) :
    (result.after ts).forget = result.forget := by
  cases result <;> rfl

theorem forget_andThen (result : Traced) (next : Outcome Value → Store → Traced) :
    (result.andThen next).forget = result.forget.andThen fun o store => (next o store).forget := by
  match result with
  | none | some (.error _, _, _) => rfl
  | some (.ok o, store, ts) => exact forget_after ts _

theorem forget_mapOutcome (f : Outcome Value → Outcome Value) (result : Traced) :
    (result.mapOutcome f).forget = result.forget.mapOutcome f :=
  forget_andThen result _

theorem exists_of_after {result : Traced} {ts us : List Trace} {step : Step} {store : Store}
    (h : result.after ts = some (step, store, us)) :
    ∃ ts', result = some (step, store, ts') ∧ us = ts ++ ts' := by
  match result with
  | none => cases h
  | some (step', store', ts') => cases h; exact ⟨ts', rfl, rfl⟩

theorem exists_of_andThen {result : Traced} {next : Outcome Value → Store → Traced} {step : Step}
    {store : Store} {us : List Trace} (h : result.andThen next = some (step, store, us)) :
    (∃ error, result = some (.error error, store, us) ∧ step = .error error) ∨
      ∃ o store₁ ts ts', result = some (.ok o, store₁, ts) ∧
        next o store₁ = some (step, store, ts') ∧ us = ts ++ ts' := by
  match result with
  | none => cases h
  | some (.error error, _, _) => cases h; exact .inl ⟨error, rfl, rfl⟩
  | some (.ok o, store₁, ts) =>
    obtain ⟨ts', hn, rfl⟩ := exists_of_after h
    exact .inr ⟨o, store₁, ts, ts', rfl, hn, rfl⟩

end Traced

/-- What happens when the parser of a cell is asked for. -/
def Store.resolving (cell : Nat) (store : Store) : List Trace :=
  match store.cells[cell]? with
  | some ⟨factory, none⟩ =>
    .event .resolvingDeferred :: .factory cell ::
      ((factory.run store.beforeFactory).2.events.toList.drop
        store.beforeFactory.events.size).map .event
  | _ => []

namespace Store

variable {cell : Nat} {store : Store}

/-- Where no factory runs, nothing happens and nothing changes. -/
theorem idle_or_empty (cell : Nat) (store : Store) :
    (store.resolve cell).2 = store ∧ store.resolving cell = [] ∨
      ∃ factory, store.cells[cell]? = some ⟨factory, none⟩ := by
  obtain ⟨p, hp⟩ | hempty | hle := store.cell_cases cell
  · obtain ⟨⟨factory, parser?⟩, hc, heq⟩ := Option.bind_eq_some_iff.1 hp
    obtain rfl : parser? = some p := heq
    exact .inl ⟨by rw [resolve_of_filled hp], by rw [resolving, hc]⟩
  · exact .inr hempty
  · exact .inl ⟨by rw [resolve_of_le hle], by rw [resolving, Array.getElem?_eq_none hle]⟩

/-- Where a factory runs, that is reported, and then the rules that it makes are. -/
theorem resolving_of_empty {factory : Factory} (h : store.cells[cell]? = some ⟨factory, none⟩) :
    ∃ n, store.resolving cell = .event .resolvingDeferred :: .factory cell ::
        List.replicate n (.event .installedRule) ∧
      (store.resolve cell).2.events =
        store.events ++ (.resolvingDeferred :: List.replicate n .installedRule).toArray := by
  obtain ⟨n, hn⟩ := (factory.extended_run store.beforeFactory).events
  refine ⟨n, ?_, ?_⟩
  · simp only [resolving, h, hn]
    simp
  · rw [resolve_of_empty h]
    change (factory.run store.beforeFactory).2.events = _
    rw [hn, show store.beforeFactory.events = store.events.push .resolvingDeferred from rfl]
    apply Array.toList_inj.1
    simp

section
variable {factory : Factory} (h : store.cells[cell]? = some ⟨factory, none⟩)
include h

theorem events_resolving :
    (store.resolve cell).2.events = store.events ++ (Trace.events (store.resolving cell)).toArray := by
  obtain ⟨n, hn, he⟩ := resolving_of_empty h
  have hr : Moment.event? (.reported .installedRule) = some .installedRule := rfl
  rw [he, hn]
  simp [Trace.events, List.filterMap_cons, List.filterMap_replicate_of_some hr]

theorem failures_resolving : Trace.failures (store.resolving cell) = [] := by
  obtain ⟨n, hn, -⟩ := resolving_of_empty h
  rw [hn]
  simp [Trace.failures, List.filterMap_cons]

theorem started_resolving : Trace.started (store.resolving cell) = [cell] := by
  obtain ⟨n, hn, -⟩ := resolving_of_empty h
  rw [hn]
  simp [Trace.started, List.filterMap_cons]

end

/-- Resolving a cell invokes nothing. -/
theorem call_notMem_resolving (cell : Nat) (store : Store) (p : Parser) (position : Nat)
    (inner : List Trace) (step : Step) (store' : Store) :
    .call p position inner step store' ∉ store.resolving cell := by
  obtain ⟨-, hnil⟩ | ⟨factory, hf⟩ := store.idle_or_empty cell
  · rw [hnil]
    exact List.not_mem_nil
  · obtain ⟨n, hn, -⟩ := resolving_of_empty hf
    rw [hn]
    simp

end Store

namespace Parser

/-! ## Combinators -/

def traceSequence (invoke : Parser → Tracing) : List Parser → List Value → Tracing
  | [], done, position, store => some (.ok (.success (.arr done.reverse) position), store, [])
  | part :: parts, done, position, store =>
    (invoke part position store).andThen fun outcome store =>
      match outcome with
      | .success value next => traceSequence invoke parts (value :: done) next store
      | .failure next => some (.ok (.failure next), store, [])
      | .rejected _ next => some (.ok (.failure next), store, [])

def traceChoice (invoke : Parser → Tracing) : List Parser → Tracing
  | [], position, store => some (.ok (.failure position), store, [])
  | alternative :: alternatives, position, store =>
    (invoke alternative position store).andThen fun outcome store =>
      if outcome.matched then some (.ok outcome, store, [])
      else traceChoice invoke alternatives position store

def traceMany (invoke : Tracing) : Nat → List Value → Tracing
  | 0, _, _, _ => none
  | fuel + 1, done, position, store =>
    (invoke position store).andThen fun outcome store =>
      match outcome with
      | .success value next =>
        if next = position then
          some (.error (.zeroWidthRepetition position), store.report (.repetitionStalled position),
            [.event (.repetitionStalled position)])
        else traceMany invoke fuel (value :: done) next store
      | _ => some (.ok (.success (.arr done.reverse) position), store, [])

def traceBody (invoke : Parser → Tracing) (slot : Nat) : Tracing := fun position store =>
  match store.body slot with
  | .error error => some (.error error, store, [])
  | .ok body => invoke body position store

/-! ## Invocation -/

/-- The store after a parser has been left. -/
def conclude (position : Nat) (step : Step) (store : Store) (parser : Parser) : Store :=
  match parser.failure? position step with
  | none => store
  | some failure => store.expect failure.position failure.label

/-- Makes an invocation of what has happened. -/
def enclose (parser : Parser) (position : Nat) (result : Traced) : Traced :=
  result.map fun (step, store, ts) =>
    (step, parser.conclude position step store,
      [.call parser position ts step (parser.conclude position step store)])

/-- What a parser does at a position of the input when it is invoked, given how it invokes others.
Repetitions are granted `fuel` iterations. -/
def inside (input : List Char) (fuel : Nat) (invoke : Parser → Tracing) (position : Nat)
    (store : Store) : Parser → Traced
  | literal text => some (.ok (matchLiteral text input position), store, [])
  | charClass set negate => some (.ok (matchCharClass set negate input position), store, [])
  | pattern p => some (.ok (matchPattern p input position), store, [])
  | custom answer => some (answer input position, store, [])
  | sequence parts => traceSequence invoke parts [] position store
  | choice alternatives => traceChoice invoke alternatives position store
  | many body => traceMany (invoke body) fuel [] position store
  | optional body => (invoke body position store).mapOutcome (optionalOutcome position)
  | deferred cell =>
    (invoke (store.resolve cell).1 position (store.resolve cell).2).after (store.resolving cell)
  | handle slot => traceBody invoke slot position store
  | rule slot => traceBody invoke slot position store
  | transform f body => (invoke body position store).mapOutcome (transformOutcome f)
  | tryTransform f body => (invoke body position store).mapOutcome (tryTransformOutcome f position)
  | tag accepts body => (invoke body position store).mapOutcome (tagOutcome accepts)
  | guarded accepts body => (invoke body position store).mapOutcome (guardOutcome accepts position)
  | labelled _ body => invoke body position store

/-- Invokes a parser at a position of the input, with all that happens. -/
def trace (input : List Char) : Nat → Parser → Tracing
  | 0, _, _, _ => none
  | fuel + 1, parser, position, store =>
    parser.enclose position (parser.inside input fuel (trace input fuel) position store)

/-! ## Forgetting what has happened -/

section
variable {invoke : Parser → Tracing} {invoke' : Parser → Invoke}
  (hi : ∀ p position store, (invoke p position store).forget = invoke' p position store)
include hi

theorem forget_traceSequence (ps : List Parser) (done : List Value) (position : Nat)
    (store : Store) :
    (traceSequence invoke ps done position store).forget =
      runSequence invoke' ps done position store := by
  induction ps generalizing done position store with
  | nil => rfl
  | cons p ps ih =>
    rw [traceSequence, runSequence, Traced.forget_andThen, hi]
    congr 1
    funext o store
    cases o with
    | success v next => exact ih _ _ _
    | failure next | rejected v next => rfl

theorem forget_traceChoice (ps : List Parser) (position : Nat) (store : Store) :
    (traceChoice invoke ps position store).forget = runChoice invoke' ps position store := by
  induction ps generalizing store with
  | nil => rfl
  | cons p ps ih =>
    rw [traceChoice, runChoice, Traced.forget_andThen, hi]
    congr 1
    funext o store
    split
    · rfl
    · exact ih store

theorem forget_traceMany (p : Parser) (fuel : Nat) (done : List Value) (position : Nat)
    (store : Store) :
    (traceMany (invoke p) fuel done position store).forget =
      runMany (invoke' p) fuel done position store := by
  induction fuel generalizing done position store with
  | zero => rfl
  | succ fuel ih =>
    rw [traceMany, runMany, Traced.forget_andThen, hi]
    congr 1
    funext o store
    cases o with
    | success v next =>
      dsimp only
      split
      · rfl
      · exact ih _ _ _
    | failure next | rejected v next => rfl

theorem forget_traceBody (slot position : Nat) (store : Store) :
    (traceBody invoke slot position store).forget = runBody invoke' slot position store := by
  unfold traceBody runBody
  cases store.body slot with
  | error error => rfl
  | ok body => exact hi body position store

end

section
variable (p : Parser) (position : Nat) (step : Step) (store : Store)

@[simp] theorem slots_conclude : (p.conclude position step store).slots = store.slots := by
  unfold conclude; split <;> rfl

@[simp] theorem cells_conclude : (p.conclude position step store).cells = store.cells := by
  unfold conclude; split <;> rfl

@[simp] theorem events_conclude : (p.conclude position step store).events = store.events := by
  unfold conclude; split <;> rfl

@[simp] theorem built_conclude : (p.conclude position step store).built = store.built := by
  unfold conclude; split <;> rfl

@[simp] theorem probes_conclude : (p.conclude position step store).probes = store.probes := by
  unfold conclude; split <;> rfl

theorem tracker_conclude :
    (p.conclude position step store).tracker =
      store.tracker.recordAll (p.failure? position step).toList := by
  unfold conclude
  cases p.failure? position step <;> rfl

@[simp] theorem conclude_error (error : GrammarError) :
    p.conclude position (.error error) store = store := by
  cases p <;> rfl

end

/-- Only labelled parsers do anything when they are left. -/
theorem forget_enclose {p : Parser} {position : Nat}
    (hp : ∀ step store, p.conclude position step store = store) (result : Traced) :
    (p.enclose position result).forget = result.forget := by
  match result with
  | none => rfl
  | some (step, store, ts) => simp only [enclose, Option.map_some, hp, Traced.forget_some]

theorem forget_enclose_labelled (label : String) (body : Parser) (position : Nat)
    (result : Traced) :
    ((labelled label body).enclose position result).forget =
      recordFailure label position result.forget := by
  match result with
  | none | some (.error _, _, _) | some (.ok (.success _ _), _, _)
  | some (.ok (.failure _), _, _) | some (.ok (.rejected _ _), _, _) => rfl

theorem forget_trace (input : List Char) (fuel : Nat) (p : Parser) (position : Nat)
    (store : Store) :
    (trace input fuel p position store).forget = run input fuel p position store := by
  induction fuel generalizing p position store with
  | zero => rfl
  | succ fuel ih =>
    rw [trace]
    cases p with
    | labelled label body => rw [forget_enclose_labelled, inside, ih, run]
    | literal | charClass | pattern | custom => rfl
    | sequence ps =>
      rw [forget_enclose fun _ _ => rfl]
      exact forget_traceSequence ih ps [] position store
    | choice ps =>
      rw [forget_enclose fun _ _ => rfl]
      exact forget_traceChoice ih ps position store
    | many body =>
      rw [forget_enclose fun _ _ => rfl]
      exact forget_traceMany ih body fuel [] position store
    | deferred cell =>
      rw [forget_enclose fun _ _ => rfl]
      exact (Traced.forget_after _ _).trans (ih _ position _)
    | handle slot | rule slot =>
      rw [forget_enclose fun _ _ => rfl]
      exact forget_traceBody ih slot position store
    | optional body | transform f body | tryTransform f body | tag accepts body
    | guarded accepts body =>
      rw [forget_enclose fun _ _ => rfl]
      exact (Traced.forget_mapOutcome _ _).trans (congrArg _ (ih body position store))

/-! ## Traces of invocations -/

/-- The invocation comes to `step` and leaves `store'` behind, and `inner` is what happens in it. -/
def Traces (input : List Char) (p : Parser) (position : Nat) (store : Store) (inner : List Trace)
    (step : Step) (store' : Store) : Prop :=
  ∃ fuel, trace input fuel p position store =
    some (step, store', [.call p position inner step store'])

/-- To be invoked is to do something, and then to be left. -/
theorem exists_inside_of_trace {input : List Char} {fuel : Nat} {p : Parser} {position : Nat}
    {store : Store} {step : Step} {store' : Store} {ts : List Trace}
    (h : trace input (fuel + 1) p position store = some (step, store', ts)) :
    ∃ store₁ inner, p.inside input fuel (trace input fuel) position store =
        some (step, store₁, inner) ∧ store' = p.conclude position step store₁ ∧
      ts = [.call p position inner step store'] := by
  rw [trace, enclose, Option.map_eq_some_iff] at h
  obtain ⟨⟨step₁, store₁, inner⟩, h, heq⟩ := h
  cases heq
  exact ⟨store₁, inner, h, rfl, rfl⟩

/-- A trace is that of one invocation. -/
theorem exists_call_of_trace {input : List Char} {fuel : Nat} {p : Parser} {position : Nat}
    {store : Store} {step : Step} {store' : Store} {ts : List Trace}
    (h : trace input fuel p position store = some (step, store', ts)) :
    ∃ inner, ts = [.call p position inner step store'] ∧
      p.Traces input position store inner step store' := by
  cases fuel with
  | zero => cases h
  | succ fuel =>
    obtain ⟨store₁, inner, -, -, rfl⟩ := exists_inside_of_trace h
    exact ⟨inner, rfl, fuel + 1, h⟩

/-- What happens in an invocation is what the parser does. -/
theorem Traces.exists_inside {input : List Char} {p : Parser} {position : Nat} {store : Store}
    {inner : List Trace} {step : Step} {store' : Store}
    (h : p.Traces input position store inner step store') :
    ∃ fuel store₁, p.inside input fuel (trace input fuel) position store =
      some (step, store₁, inner) := by
  obtain ⟨fuel, h⟩ := h
  cases fuel with
  | zero => cases h
  | succ fuel =>
    obtain ⟨store₁, inner', hinside, -, heq⟩ := exists_inside_of_trace h
    cases heq
    exact ⟨fuel, store₁, hinside⟩

/-- An invocation that comes to an end has a trace. -/
theorem invoke_iff_traces {input : List Char} {p : Parser} {position : Nat} {store : Store}
    {step : Step} {store' : Store} :
    p.invoke input position store = some (step, store') ↔
      ∃ inner, p.Traces input position store inner step store' := by
  rw [invoke_eq_some_iff]
  constructor
  · rintro ⟨fuel, h⟩
    rw [← forget_trace, Traced.forget, Option.map_eq_some_iff] at h
    obtain ⟨⟨step₁, store₁, ts⟩, h, heq⟩ := h
    cases heq
    obtain ⟨inner, -, ht⟩ := exists_call_of_trace h
    exact ⟨inner, ht⟩
  · rintro ⟨inner, fuel, h⟩
    exact ⟨fuel, by rw [← forget_trace, h, Traced.forget_some]⟩

end Parser

end Descent
