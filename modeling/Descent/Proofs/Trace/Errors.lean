import Descent.Proofs.Meaning.Reading
import Descent.Proofs.Trace.Equations
import Descent.Proofs.Trace.Induction

/-!
# Errors end a run

Where an invocation within an invocation comes to an error of the grammar, nothing is left to do but
to pass the error on (`Trace.Orderly`): all that happens is quiet, then there may be one report of a
repetition that stalls, and then the invocations that are still open are left with the error, in a
store that does not change any more. So an error is never mistaken for a failure to match, and a
reader answers with it (`Parser.invoke_fails_fast`).
-/

namespace Descent

/-! ## Order -/

/-- No error is passed on, and no repetition is reported to stall. -/
def Moment.Quiet : Moment → Prop
  | left _ _ step _ => Grammar.error? step = none
  | reported e => ∀ n, e ≠ .repetitionStalled n
  | entered _ _ | started _ => True

namespace Trace

/-- First all is quiet, then a repetition may be reported to stall, then the error is passed on. -/
def Orderly : Account Unit := fun _ _ error? _ t ts =>
  ∃ quiet alarm passed, momentsAll ts = quiet ++ (alarm ++ passed) ∧ (∀ m ∈ quiet, m.Quiet) ∧
    (alarm = [] ∨ ∃ n, error? = some (.zeroWidthRepetition n) ∧
      alarm = [.reported (.repetitionStalled n)]) ∧
    ∀ m ∈ passed, ∃ error q n, error? = some error ∧ m = .left q n (.error error) t

section
variable {a b : Unit} {s t : Store} {ts : List Trace}

/-- Without an error all is quiet. -/
theorem orderly_none_iff : Orderly a s none b t ts ↔ ∀ m ∈ momentsAll ts, m.Quiet := by
  constructor
  · rintro ⟨quiet, alarm, passed, hm, hq, ha, hp⟩
    obtain rfl : alarm = [] := by
      obtain rfl | ⟨n, hn, -⟩ := ha
      · rfl
      · cases hn
    obtain rfl : passed = [] := List.eq_nil_iff_forall_not_mem.2 fun m hmem => by
      obtain ⟨error, q, n, hn, -⟩ := hp m hmem
      cases hn
    rw [hm, List.append_nil, List.append_nil]
    exact hq
  · intro h
    exact ⟨_, [], [], by simp, h, .inl rfl, fun _ hm => nomatch hm⟩

/-- Building is quiet. -/
theorem quiet_resolving (cell : Nat) (s : Store) :
    ∀ m ∈ momentsAll (s.resolving cell), m.Quiet := by
  obtain ⟨-, hnil⟩ | ⟨factory, hf⟩ := s.idle_or_empty cell
  · simp [hnil]
  · obtain ⟨n, hn, -⟩ := Store.resolving_of_empty hf
    simp [hn, Moment.Quiet]

end

theorem law_orderly (input : List Char) : Law input (fun _ _ _ => True) Orderly where
  part _ _ := trivial
  body _ _ := trivial
  keeps _ _ := trivial
  nil _ _ _ := ⟨[], [], [], rfl, fun _ hm => (nomatch hm), .inl rfl, fun _ hm => nomatch hm⟩
  append {_ _ _ _ _ _ _ ts _} h h' := by
    have hts := orderly_none_iff.1 h
    obtain ⟨quiet, alarm, passed, hm, hq, ha, hp⟩ := h'
    refine ⟨momentsAll ts ++ quiet, alarm, passed, by simp [hm], fun m hmem => ?_, ha, hp⟩
    exact (List.mem_append.1 hmem).elim (hts m) (hq m)
  stall _ _ n := ⟨[], [.reported (.repetitionStalled n)], [], rfl, fun _ hm => (nomatch hm),
    .inr ⟨n, rfl, rfl⟩, fun _ hm => nomatch hm⟩
  resolve {_ s cell} _ := ⟨(), orderly_none_iff.2 (quiet_resolving cell s), trivial⟩
  call {_ _ _ t p position step inner} _ h _ := by
    cases step with
    | ok o =>
      have hinner := orderly_none_iff.1 h
      refine orderly_none_iff.2 fun m hm => ?_
      rw [momentsAll_cons, moments_call, momentsAll_nil, List.append_nil, List.mem_cons,
        List.mem_append, List.mem_singleton] at hm
      obtain rfl | hm | rfl := hm
      · trivial
      · exact hinner m hm
      · rfl
    | error error =>
      obtain ⟨quiet, alarm, passed, hm, hq, ha, hp⟩ := h
      rw [Parser.conclude_error]
      refine ⟨.entered p position :: quiet, alarm, passed ++ [.left p position (.error error) t],
        by simp [moments_call, hm], List.forall_mem_cons.2 ⟨trivial, hq⟩, ha, fun m hmem => ?_⟩
      rcases List.mem_append.1 hmem with hmem | hmem
      · exact hp m hmem
      · exact ⟨error, p, position, rfl, List.mem_singleton.1 hmem⟩

end Trace

/-- What is not in the first part of a list stands behind that part. -/
theorem exists_of_append_eq_append_cons {α : Type} {P : α → Prop} {l r before after : List α}
    {m : α} (h : l ++ r = before ++ m :: after) (hl : ∀ x ∈ l, P x) (hm : ¬ P m) :
    ∃ mid, before = l ++ mid ∧ r = mid ++ m :: after := by
  obtain ⟨mid, hb, hr⟩ | ⟨mid, hl', hr⟩ := List.append_eq_append_iff.1 h
  · exact ⟨mid, hb, hr⟩
  · cases mid with
    | nil => exact ⟨[], by simpa using hl'.symm, by simpa using hr.symm⟩
    | cons x mid =>
      obtain ⟨rfl, -⟩ := List.cons.inj hr
      exact absurd (hl m (by simp [hl'])) hm

namespace Parser.Traces

variable {input : List Char} {p : Parser} {position : Nat} {s t : Store} {inner : List Trace}
  {step : Step}

theorem orderly (h : p.Traces input position s inner step t) :
    Trace.Orderly () s (Grammar.error? step) () t [.call p position inner step t] :=
  have ⟨_, ho⟩ := (Trace.law_orderly input).traces (a := ()) trivial h
  ho

theorem eq_error_of_error? {error : GrammarError} (h : Grammar.error? step = some error) :
    step = .error error := by
  cases step with
  | ok o => cases h
  | error e => cases h; rfl

/-- When an error is passed on, it is the answer, and all that is left is to pass it on. -/
theorem error_ends (h : p.Traces input position s inner step t) {before after : List Moment}
    {q : Parser} {n : Nat} {error : GrammarError} {u : Store}
    (hm : (Trace.call p position inner step t).moments =
      before ++ .left q n (.error error) u :: after) :
    step = .error error ∧ u = t ∧ ∀ m ∈ after, ∃ q' n', m = .left q' n' (.error error) t := by
  obtain ⟨quiet, alarm, passed, hsplit, hq, ha, hp⟩ := h.orderly
  rw [Trace.momentsAll_cons, Trace.momentsAll_nil, List.append_nil, hm] at hsplit
  obtain ⟨mid, -, hmid⟩ := exists_of_append_eq_append_cons hsplit.symm hq
    (fun hquiet => by cases hquiet)
  have halarm : ∀ m ∈ alarm, ∃ e, m = .reported e := by
    obtain rfl | ⟨k, -, rfl⟩ := ha
    · exact fun _ hm => nomatch hm
    · exact fun m hm => ⟨_, List.mem_singleton.1 hm⟩
  obtain ⟨mid', -, hpassed⟩ := exists_of_append_eq_append_cons hmid halarm nofun
  have hleft : .left q n (.error error) u ∈ passed := by rw [hpassed]; simp
  obtain ⟨error', q', n', herror, heq⟩ := hp _ hleft
  cases heq
  refine ⟨eq_error_of_error? herror, rfl, fun m hmem => ?_⟩
  obtain ⟨error', q', n', herror', rfl⟩ := hp m (by rw [hpassed]; simp [hmem])
  rw [herror] at herror'
  cases herror'
  exact ⟨q', n', rfl⟩

/-- When a repetition is reported to stall, all was quiet before, and all that is left is to pass the
error on. -/
theorem stall_ends (h : p.Traces input position s inner step t) {before after : List Moment}
    {n : Nat} (hm : (Trace.call p position inner step t).moments =
      before ++ .reported (.repetitionStalled n) :: after) :
    step = .error (.zeroWidthRepetition n) ∧ (∀ m ∈ before, m.Quiet) ∧
      ∀ m ∈ after, ∃ q' n', m = .left q' n' (.error (.zeroWidthRepetition n)) t := by
  obtain ⟨quiet, alarm, passed, hsplit, hq, ha, hp⟩ := h.orderly
  rw [Trace.momentsAll_cons, Trace.momentsAll_nil, List.append_nil, hm] at hsplit
  obtain ⟨mid, rfl, hmid⟩ := exists_of_append_eq_append_cons hsplit.symm hq
    (fun hquiet => hquiet n rfl)
  have hpassed : ∀ m ∈ passed, m ≠ .reported (.repetitionStalled n) := by
    intro m hmem heq
    obtain ⟨error, q, k, -, rfl⟩ := hp m hmem
    cases heq
  obtain rfl | ⟨k, herror, rfl⟩ := ha
  · exact absurd rfl (hpassed _ (by rw [← List.nil_append passed, hmid]; simp))
  · rw [List.singleton_append] at hmid
    cases mid with
    | cons x mid =>
      exact absurd rfl (hpassed _ (by rw [(List.cons.inj hmid).2]; simp))
    | nil =>
      obtain ⟨heq, rfl⟩ := List.cons.inj hmid
      cases heq
      refine ⟨eq_error_of_error? herror, by simpa using hq, fun m hmem => ?_⟩
      obtain ⟨error, q, k, herror', rfl⟩ := hp m hmem
      rw [herror] at herror'
      cases herror'
      exact ⟨q, k, rfl⟩

end Parser.Traces

/-! ## Stalls -/

namespace Parser

/-- A repetition reports a stall where an iteration matches without advancing. -/
theorem stalled_traceMany_iff {input : List Char} {depth : Nat} {body : Parser} {fuel : Nat}
    {done : List Value} {position : Nat} {s t : Store} {step : Step} {ts : List Trace}
    (h : traceMany (trace input depth body) fuel done position s = some (step, t, ts)) (n : Nat) :
    .event (.repetitionStalled n) ∈ ts ↔
      ∃ v deeper u, .call body n deeper (.ok (.success v n)) u ∈ ts := by
  induction fuel generalizing done position s ts with
  | zero => cases h
  | succ fuel ih =>
    obtain ⟨error, he, rfl⟩ | ⟨o, s', ts₁, ts₂, ho, hnext, rfl⟩ := Traced.exists_of_andThen h
    · obtain ⟨inner, rfl, -⟩ := exists_call_of_trace he
      simp
    · obtain ⟨inner, rfl, -⟩ := exists_call_of_trace ho
      cases o with
      | failure next | rejected v next =>
        cases hnext
        simp
      | success v next =>
        dsimp only at hnext
        split at hnext
        · -- this iteration stalls, and nothing comes behind it
          obtain rfl : next = position := ‹_›
          cases hnext
          constructor
          · intro hmem
            obtain rfl : n = next := by simpa using hmem
            exact ⟨v, inner, s', by simp⟩
          · rintro ⟨v', deeper, u, hmem⟩
            have : n = next := by
              simp only [List.singleton_append, List.mem_cons, List.not_mem_nil, or_false] at hmem
              obtain hmem | hmem := hmem <;> cases hmem
              rfl
            simp [this]
        · -- this one does not, so that what stalls is one behind it
          rename_i hne
          have hcall : ∀ v' deeper u, Trace.call body n deeper (.ok (.success v' n)) u ≠
              .call body position inner (.ok (.success v next)) s' := by
            intro v' deeper u heq
            cases heq
            exact hne rfl
          simpa [hcall] using ih hnext

/-- A stall is reported just by a repetition one of whose iterations matches without advancing. -/
theorem Traces.stalled_iff {input : List Char} {p : Parser} {position : Nat} {s t : Store}
    {inner : List Trace} {step : Step} (h : p.Traces input position s inner step t) (n : Nat) :
    .event (.repetitionStalled n) ∈ inner ↔
      ∃ body, p = .many body ∧
        ∃ v deeper u, .call body n deeper (.ok (.success v n)) u ∈ inner := by
  by_cases hmany : ∃ body, p = .many body
  · obtain ⟨body, rfl⟩ := hmany
    obtain ⟨fuel, t', h⟩ := h.exists_inside
    rw [stalled_traceMany_iff h n]
    simp
  · constructor
    · intro hmem
      exfalso
      refine h.all (P := (· ≠ .event (.repetitionStalled n))) (fun _ _ _ _ _ heq => ?_)
        (fun body _ hp => absurd ⟨body, hp⟩ hmany) (fun cell _ x hx heq => ?_) _ hmem rfl
      · cases heq
      · have hquiet : (Moment.reported (.repetitionStalled n)).Quiet :=
          Trace.quiet_resolving cell s _
            (Trace.mem_momentsAll_of_mem (heq ▸ hx) List.mem_cons_self)
        exact hquiet n rfl
    · rintro ⟨body, hp, -⟩
      exact absurd ⟨body, hp⟩ hmany

end Parser

/-! ## Invocations of an invocation -/

/-- A parser that is invoked at a position with a store. -/
structure Invocation where
  parser : Parser
  position : Nat
  store : Store

namespace Invocation

/-- What the invocation comes to. -/
def result (input : List Char) (i : Invocation) : Result :=
  i.parser.invoke input i.position i.store

/-- `i.Makes input j`: to answer, the invocation `i` makes the invocation `j`. Whether `i` comes to
an end does not matter. -/
inductive Makes (input : List Char) : Invocation → Invocation → Prop
  | first {p q : Parser} {qs : List Parser} {n : Nat} {s : Store} : p.parts = q :: qs →
      Makes input ⟨p, n, s⟩ ⟨q, n, s⟩
  | deferred {cell n : Nat} {s : Store} :
      Makes input ⟨.deferred cell, n, s⟩ ⟨(s.resolve cell).1, n, (s.resolve cell).2⟩
  | rule {slot n : Nat} {s : Store} {q : Parser} : s.body slot = .ok q →
      Makes input ⟨.rule slot, n, s⟩ ⟨q, n, s⟩
  | handle {slot n : Nat} {s : Store} {q : Parser} : s.body slot = .ok q →
      Makes input ⟨.handle slot, n, s⟩ ⟨q, n, s⟩
  /-- A part is invoked where those before have matched. -/
  | part {q : Parser} {qs : List Parser} {n next : Nat} {s t : Store} {v : Value}
      {j : Invocation} : result input ⟨q, n, s⟩ = some (.ok (.success v next), t) →
      Makes input ⟨.sequence qs, next, t⟩ j → Makes input ⟨.sequence (q :: qs), n, s⟩ j
  /-- An alternative is invoked where those before have not matched. -/
  | alternative {q : Parser} {qs : List Parser} {n : Nat} {s t : Store} {o : Outcome Value}
      {j : Invocation} : result input ⟨q, n, s⟩ = some (.ok o, t) → o.matched = false →
      Makes input ⟨.choice qs, n, t⟩ j → Makes input ⟨.choice (q :: qs), n, s⟩ j
  /-- A repetition goes on where the iteration before has matched and advanced. -/
  | iteration {q : Parser} {n next : Nat} {s t : Store} {v : Value} {j : Invocation} :
      result input ⟨q, n, s⟩ = some (.ok (.success v next), t) → next ≠ n →
      Makes input ⟨.many q, next, t⟩ j → Makes input ⟨.many q, n, s⟩ j

end Invocation

namespace Parser

/-- The values so far do not show in an error. -/
theorem runSequence_eq_error {invoke : Parser → Invoke} {ps : List Parser} {done : List Value}
    {position : Nat} {s t : Store} {error : GrammarError}
    (h : runSequence invoke ps done position s = some (.error error, t)) (done' : List Value) :
    runSequence invoke ps done' position s = some (.error error, t) := by
  induction ps generalizing done done' position s with
  | nil => cases h
  | cons p ps ih =>
    rw [runSequence] at h ⊢
    obtain ⟨error', he, heq⟩ | ⟨o, s', ho, hnext⟩ := Result.exists_of_andThen h
    · cases heq
      exact Result.andThen_eq_of_error he _
    · rw [Result.andThen_eq_of_ok ho]
      cases o with
      | success v next => exact ih hnext (v :: done')
      | failure next | rejected v next => cases hnext

/-- An error of what is invoked first is the answer. -/
theorem run_eq_error_of_first {input : List Char} {fuel : Nat} {p q : Parser} {qs : List Parser}
    {position : Nat} {s t : Store} {error : GrammarError} (hp : p.parts = q :: qs)
    (h : run input fuel q position s = some (.error error, t)) :
    run input (fuel + 1) p position s = some (.error error, t) := by
  cases p with
  | sequence ps | choice ps =>
    obtain rfl : ps = q :: qs := hp
    exact Result.andThen_eq_of_error h _
  | many body =>
    cases hp
    cases fuel with
    | zero => cases h
    | succ fuel => exact Result.andThen_eq_of_error h _
  | optional body | transform f body | tryTransform f body | tag accepts body
  | guarded accepts body | labelled label body =>
    cases hp
    exact Result.andThen_eq_of_error h _
  | _ => cases hp

end Parser

namespace Invocation

variable {input : List Char} {i j : Invocation} {error : GrammarError} {t : Store}

/-- An error of an invocation that is made is the answer. -/
theorem Makes.result_eq_error (h : i.Makes input j) (hj : j.result input = some (.error error, t)) :
    i.result input = some (.error error, t) := by
  induction h with
  | first hp =>
    obtain ⟨fuel, hrun⟩ := Parser.invoke_eq_some_iff.1 hj
    exact Parser.invoke_eq_some_iff.2 ⟨fuel + 1, Parser.run_eq_error_of_first hp hrun⟩
  | deferred =>
    obtain ⟨fuel, hrun⟩ := Parser.invoke_eq_some_iff.1 hj
    exact Parser.invoke_eq_some_iff.2 ⟨fuel + 1, hrun⟩
  | rule hb | handle hb =>
    obtain ⟨fuel, hrun⟩ := Parser.invoke_eq_some_iff.1 hj
    exact Parser.invoke_eq_some_iff.2
      ⟨fuel + 1, by simpa only [Parser.run, Parser.runBody, hb] using hrun⟩
  | part hq _ ih =>
    have hrest := ih hj
    simp only [result, Parser.invoke_sequence] at hq hrest ⊢
    rw [Parser.runSequence, Result.andThen_eq_of_ok hq]
    exact Parser.runSequence_eq_error hrest _
  | alternative hq ho _ ih =>
    have hrest := ih hj
    simp only [result, Parser.invoke_choice] at hq hrest ⊢
    rw [Parser.runChoice, Result.andThen_eq_of_ok hq, ho]
    exact hrest
  | iteration hq hn _ ih =>
    have hrest := ih hj
    rw [result] at hrest ⊢
    rw [Parser.invoke_many_next hq hn, hrest]
    rfl

/-- An error anywhere below an invocation is its answer. -/
theorem result_eq_error_of_makes (h : Relation.ReflTransGen (Makes input) i j)
    (hj : j.result input = some (.error error, t)) : i.result input = some (.error error, t) := by
  induction h with
  | refl => exact hj
  | tail _ hm ih => exact ih (hm.result_eq_error hj)

end Invocation

/-! ## Readers -/

namespace Reader

variable {input : List Char} {store store' : Store} {error : GrammarError}

theorem parseAt_of_error {p : Parser} {position : Nat}
    (h : p.invoke input position store = some (.error error, store'))
    (hp : position ≤ Text.byteLength input) (hb : Text.isBoundary input position = true) :
    parseAt p input position store = some (.error (.grammar error), store') := by
  simp [parseAt, Nat.not_lt.2 hp, hb, h, ofResult]

theorem parsePrefix_of_error {reader : Reader}
    (h : reader.parser.invoke input 0 (reader.fresh store) = some (.error error, store')) :
    reader.parsePrefix input store = some (.error (.grammar error), store') := by
  rw [fresh] at h
  simp [parsePrefix, parseAt_zero, h, ofResult, andThen]

theorem parse_of_error {reader : Reader}
    (h : reader.parser.invoke input 0 (reader.fresh store) = some (.error error, store')) :
    reader.parse input store = some (.error (.grammar error), store') := by
  simp [parse, parsePrefix_of_error h, andThen]

end Reader

/-! ## The main theorem -/

/-- What becomes of the errors and the stalls within an invocation that comes to `step`. -/
structure Trace.FailsFast (input : List Char) (p : Parser) (position : Nat) (store : Store)
    (inner : List Trace) (step : Step) (store' : Store) : Prop where
  /-- The trace is that of the invocation. -/
  traces : p.Traces input position store inner step store'
  /-- It accounts for all that the store keeps a record of. -/
  accounts : Accounts store store' [call p position inner step store']
  /-- An error within the invocation is its answer, and the store stays as it was left with it. -/
  answered (q : Parser) (n : Nat) (deeper : List Trace) (error : GrammarError) (u : Store) :
    (call q n deeper (.error error) u).Among [call p position inner step store'] →
    step = .error error ∧ u = store'
  /-- After an error nothing happens but that it is passed on. -/
  last (before : List Moment) (q : Parser) (n : Nat) (error : GrammarError) (u : Store)
    (after : List Moment) :
    (call p position inner step store').moments = before ++ .left q n (.error error) u :: after →
    ∀ m ∈ after, ∃ q' n', m = .left q' n' (.error error) store'
  /-- A stall is reported just where an iteration of a repetition matches without advancing. -/
  stalled (n : Nat) : .repetitionStalled n ∈ events [call p position inner step store'] ↔
    ∃ body m deeper step' u, (call (.many body) m deeper step' u).Among
        [call p position inner step store'] ∧
      ∃ v deepest u', call body n deepest (.ok (.success v n)) u' ∈ deeper
  /-- The report of a stall is the only one and the last event, and the error tells the position. -/
  warned (before : List Event) (n : Nat) (after : List Event) :
    events [call p position inner step store'] = before ++ .repetitionStalled n :: after →
    step = .error (.zeroWidthRepetition n) ∧ after = [] ∧ ∀ k, .repetitionStalled k ∉ before

namespace Parser

section
variable {input : List Char} {p : Parser} {position : Nat} {s t : Store} {inner : List Trace}
  {step : Step}

theorem Traces.mem_events_iff (h : p.Traces input position s inner step t) (n : Nat) :
    .repetitionStalled n ∈ Trace.events [.call p position inner step t] ↔
      ∃ body m deeper step' u, (Trace.call (.many body) m deeper step' u).Among
          [.call p position inner step t] ∧
        ∃ v deepest u', .call body n deepest (.ok (.success v n)) u' ∈ deeper := by
  rw [Trace.mem_events_iff]
  constructor
  · intro hn
    obtain hmem | ⟨q, m, deeper, step', u, hq, hmem⟩ := hn.mem_or_exists
    · cases List.mem_singleton.1 hmem
    · obtain ⟨before, ht⟩ := h.genuine hq
      obtain ⟨body, rfl, hbody⟩ := (ht.stalled_iff n).1 hmem
      exact ⟨body, m, deeper, step', u, hq, hbody⟩
  · rintro ⟨body, m, deeper, step', u, hq, hbody⟩
    obtain ⟨before, ht⟩ := h.genuine hq
    exact hq.trans (.here ((ht.stalled_iff n).2 ⟨body, rfl, hbody⟩))

theorem Traces.warned (h : p.Traces input position s inner step t) {before after : List Event}
    {n : Nat} (he : Trace.events [.call p position inner step t] =
      before ++ .repetitionStalled n :: after) :
    step = .error (.zeroWidthRepetition n) ∧ after = [] ∧ ∀ k, .repetitionStalled k ∉ before := by
  obtain ⟨l, r, hlr, rfl, hr⟩ := List.filterMap_eq_append_iff.1 he
  obtain ⟨r₁, m, r₂, rfl, -, hm, rfl⟩ := List.filterMap_eq_cons_iff.1 hr
  have hreport : m = .reported (.repetitionStalled n) := by
    cases m <;> simp at hm
    rw [hm]
  rw [Trace.momentsAll_cons, Trace.momentsAll_nil, List.append_nil, ← List.append_assoc,
    hreport] at hlr
  obtain ⟨hstep, hquiet, hleft⟩ := h.stall_ends hlr
  refine ⟨hstep, List.filterMap_eq_nil_iff.2 fun m hm => ?_, fun k hk => ?_⟩
  · obtain ⟨q, j, rfl⟩ := hleft m hm
    rfl
  · obtain ⟨m, hm, he⟩ := List.mem_filterMap.1 hk
    have hq := hquiet m (List.mem_append_left _ hm)
    cases m <;> simp at he
    exact hq k he

end

/-- An error below an invocation, whether or not the invocation would come to an end, is its answer,
and nothing happens after it; a reader answers with it. -/
theorem invoke_fails_fast (input : List Char) (p : Parser) (position : Nat) (store : Store) :
    (∀ (j : Invocation) (error : GrammarError) (store' : Store),
      Relation.ReflTransGen (Invocation.Makes input) ⟨p, position, store⟩ j →
      j.result input = some (.error error, store') →
      p.invoke input position store = some (.error error, store')) ∧
    (∀ (step : Step) (store' : Store), p.invoke input position store = some (step, store') →
      ∃ inner, Trace.FailsFast input p position store inner step store') ∧
    ∀ (error : GrammarError) (store' : Store),
      p.invoke input position store = some (.error error, store') →
      (position ≤ Text.byteLength input → Text.isBoundary input position = true →
        Reader.parseAt p input position store = some (.error (.grammar error), store')) ∧
      ∀ (reader : Reader) (s : Store), reader.parser = p → position = 0 → reader.fresh s = store →
        reader.parsePrefix input s = some (.error (.grammar error), store') ∧
          reader.parse input s = some (.error (.grammar error), store') := by
  refine ⟨fun j error store' hj => Invocation.result_eq_error_of_makes hj, fun step store' h => ?_,
    fun error store' h => ⟨Reader.parseAt_of_error h, ?_⟩⟩
  · obtain ⟨inner, ht⟩ := invoke_iff_traces.1 h
    refine ⟨inner, ht, ht.accounts, fun q n deeper error u hq => ?_,
      fun before q n error u after hm => (ht.error_ends hm).2.2, ht.mem_events_iff,
      fun before n after => ht.warned⟩
    have hleft := Trace.left_mem_momentsAll hq
    rw [Trace.momentsAll_cons, Trace.momentsAll_nil, List.append_nil] at hleft
    obtain ⟨before, after, hm⟩ := List.append_of_mem hleft
    obtain ⟨hstep, hu, -⟩ := ht.error_ends hm
    exact ⟨hstep, hu⟩
  · rintro reader s rfl rfl rfl
    exact ⟨Reader.parsePrefix_of_error h, Reader.parse_of_error h⟩

/-- A labelled repetition, before another alternative, of something that may match nothing. -/
def stalling : Parser :=
  .choice [.labelled "letters" (.many (.optional (.literal "a"))), .literal "b"]

/-- Neither the label nor the other alternative comes into play when the repetition stalls. -/
theorem invoke_fails_fast_stalling :
    ∃ store', stalling.invoke "ab".toList 0 Store.empty =
        some (.error (.zeroWidthRepetition 1), store') ∧
      (∃ inner, Trace.FailsFast "ab".toList stalling 0 Store.empty inner
        (.error (.zeroWidthRepetition 1)) store') ∧
      Reader.parse { parser := stalling } "ab".toList Store.empty =
        some (.error (.grammar (.zeroWidthRepetition 1)), store') := by
  obtain ⟨hanswer, htrace, hreader⟩ := invoke_fails_fast "ab".toList stalling 0 Store.empty
  have h := hanswer ⟨.many (.optional (.literal "a")), 0, Store.empty⟩ (.zeroWidthRepetition 1)
    (Store.empty.report (.repetitionStalled 1)) (.tail (.single (.first rfl)) (.first rfl))
    (invoke_eq_some_iff.2 ⟨6, rfl⟩)
  exact ⟨_, h, htrace _ _ h, ((hreader _ _ h).2 { parser := stalling } Store.empty rfl rfl rfl).2⟩

end Parser

end Descent
