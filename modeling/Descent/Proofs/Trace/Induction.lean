import Descent.Proofs.Trace.Basic

/-!
# Induction over runs

What holds of all that happens in a run is shown once for each way in which things follow one
another (`Law`), and then holds of every run (`Law.trace`). A law may say something about the places
of the store that changes as the store grows, the ghost, and may rely on an invariant of the parsers
that are invoked.

The first two laws are that each invocation in a trace is one that really takes place
(`Parser.Traces.genuine`), and that the trace accounts for all that the store keeps a record of
(`Parser.Traces.accounts`).
-/

namespace Descent

namespace Parser

/-- The parsers that a parser is made of. -/
def parts : Parser → List Parser
  | sequence parts => parts
  | choice alternatives => alternatives
  | many body => [body]
  | optional body => [body]
  | transform _ body => [body]
  | tryTransform _ body => [body]
  | tag _ body => [body]
  | guarded _ body => [body]
  | labelled _ body => [body]
  | _ => []

end Parser

/-! ## Laws -/

/-- A law of what happens: with the ghost `a`, in the store `s`, come to `error?`, with `ts` on the
way, and with the ghost `b` in the store `t` at the end. -/
abbrev Trace.Account (γ : Type) :=
  γ → Store → Option GrammarError → γ → Store → List Trace → Prop

/-- What has to be shown for `Q` to hold of every run of a parser that has the invariant `I`. -/
structure Law (input : List Char) {γ : Type} (I : γ → Store → Parser → Prop)
    (Q : Trace.Account γ) : Prop where
  part {a : γ} {s : Store} {p q : Parser} : I a s p → q ∈ p.parts → I a s q
  body {a : γ} {s : Store} {slot : Nat} {q : Parser} :
    I a s (.rule slot) ∨ I a s (.handle slot) → s.body slot = .ok q → I a s q
  keeps {a b : γ} {s t : Store} {error? : Option GrammarError} {ts : List Trace} {p : Parser} :
    Q a s error? b t ts → I a s p → I b t p
  nil (a : γ) (s : Store) (error? : Option GrammarError) : Q a s error? a s []
  append {a b c : γ} {s t u : Store} {error? : Option GrammarError} {ts us : List Trace} :
    Q a s none b t ts → Q b t error? c u us → Q a s error? c u (ts ++ us)
  /-- A repetition finds that it does not advance. -/
  stall (a : γ) (s : Store) (position : Nat) :
    Q a s (some (.zeroWidthRepetition position)) a (s.report (.repetitionStalled position))
      [.event (.repetitionStalled position)]
  resolve {a : γ} {s : Store} {cell : Nat} : I a s (.deferred cell) →
    ∃ b, Q a s none b (s.resolve cell).2 (s.resolving cell) ∧
      I b (s.resolve cell).2 (s.resolve cell).1
  call {a b : γ} {s t : Store} {p : Parser} {position : Nat} {step : Step} {inner : List Trace} :
    I a s p → Q a s (Grammar.error? step) b t inner →
    p.Traces input position s inner step (p.conclude position step t) →
    Q a s (Grammar.error? step) b (p.conclude position step t)
      [.call p position inner step (p.conclude position step t)]

namespace Law

variable {input : List Char} {γ : Type} {I : γ → Store → Parser → Prop} {Q : Trace.Account γ}

/-- The law holds of all results. -/
def Holds (Q : Trace.Account γ) (a : γ) (s : Store) (result : Traced) : Prop :=
  ∀ step t ts, result = some (step, t, ts) → ∃ b, Q a s (Grammar.error? step) b t ts

section
variable (law : Law input I Q)
include law

theorem holds_some (a : γ) (s : Store) (step : Step) : Holds Q a s (some (step, s, [])) := by
  intro _ _ _ h
  cases h
  exact ⟨a, law.nil a s _⟩

theorem holds_andThen {a : γ} {s : Store} {result : Traced} {next : Outcome Value → Store → Traced}
    (hr : Holds Q a s result)
    (hn : ∀ o b t ts, Q a s none b t ts → Holds Q b t (next o t)) :
    Holds Q a s (result.andThen next) := by
  intro step u us h
  obtain ⟨error, he, rfl⟩ | ⟨o, t, ts, ts', ho, hnext, rfl⟩ := Traced.exists_of_andThen h
  · exact hr _ _ _ he
  · obtain ⟨b, hq⟩ := hr _ _ _ ho
    obtain ⟨c, hq'⟩ := hn o b t ts hq _ _ _ hnext
    exact ⟨c, law.append hq hq'⟩

theorem holds_mapOutcome {a : γ} {s : Store} {result : Traced} (hr : Holds Q a s result)
    (f : Outcome Value → Outcome Value) : Holds Q a s (result.mapOutcome f) :=
  law.holds_andThen hr fun o b t _ _ => law.holds_some b t (.ok (f o))

/-! ## Combinators -/

section
variable {invoke : Parser → Tracing}
  (hi : ∀ p a s position, I a s p → Holds Q a s (invoke p position s))
include hi

theorem holds_traceSequence (ps : List Parser) (done : List Value) (position : Nat) {a : γ}
    {s : Store} (hp : ∀ p ∈ ps, I a s p) :
    Holds Q a s (Parser.traceSequence invoke ps done position s) := by
  induction ps generalizing done position a s with
  | nil => exact law.holds_some a s _
  | cons p ps ih =>
    rw [List.forall_mem_cons] at hp
    refine law.holds_andThen (hi p a s position hp.1) fun o b t ts hq => ?_
    cases o with
    | success v next => exact ih (v :: done) next fun q hqs => law.keeps hq (hp.2 q hqs)
    | failure next | rejected v next => exact law.holds_some b t _

theorem holds_traceChoice (ps : List Parser) (position : Nat) {a : γ} {s : Store}
    (hp : ∀ p ∈ ps, I a s p) : Holds Q a s (Parser.traceChoice invoke ps position s) := by
  induction ps generalizing a s with
  | nil => exact law.holds_some a s _
  | cons p ps ih =>
    rw [List.forall_mem_cons] at hp
    refine law.holds_andThen (hi p a s position hp.1) fun o b t ts hq => ?_
    split
    · exact law.holds_some b t _
    · exact ih fun q hqs => law.keeps hq (hp.2 q hqs)

theorem holds_traceMany (p : Parser) (fuel : Nat) (done : List Value) (position : Nat) {a : γ}
    {s : Store} (hp : I a s p) :
    Holds Q a s (Parser.traceMany (invoke p) fuel done position s) := by
  induction fuel generalizing done position a s with
  | zero => exact fun _ _ _ h => nomatch h
  | succ fuel ih =>
    refine law.holds_andThen (hi p a s position hp) fun o b t ts hq => ?_
    cases o with
    | success v next =>
      dsimp only
      split
      · intro _ _ _ h
        cases h
        exact ⟨b, law.stall b t position⟩
      · exact ih (v :: done) next (law.keeps hq hp)
    | failure next | rejected v next => exact law.holds_some b t _

theorem holds_traceBody (slot position : Nat) {a : γ} {s : Store}
    (hp : I a s (.rule slot) ∨ I a s (.handle slot)) :
    Holds Q a s (Parser.traceBody invoke slot position s) := by
  unfold Parser.traceBody
  split
  · exact law.holds_some a s _
  · rename_i body hb
    exact hi body a s position (law.body hp hb)

theorem holds_resolve (cell position : Nat) {a : γ} {s : Store} (hp : I a s (.deferred cell)) :
    Holds Q a s ((invoke (s.resolve cell).1 position (s.resolve cell).2).after
      (s.resolving cell)) := by
  obtain ⟨b, hq, hp'⟩ := law.resolve hp
  intro step t us h
  obtain ⟨ts, hr, rfl⟩ := Traced.exists_of_after h
  obtain ⟨c, hq'⟩ := hi _ b _ position hp' _ _ _ hr
  exact ⟨c, law.append hq hq'⟩

theorem holds_inside (fuel : Nat) (p : Parser) (position : Nat) {a : γ} {s : Store}
    (hp : I a s p) : Holds Q a s (p.inside input fuel invoke position s) := by
  have hparts : ∀ q ∈ p.parts, Holds Q a s (invoke q position s) :=
    fun q hq => hi q a s position (law.part hp hq)
  cases p with
  | literal | charClass | pattern | custom => exact law.holds_some a s _
  | sequence ps => exact law.holds_traceSequence hi ps [] position fun q => law.part hp
  | choice ps => exact law.holds_traceChoice hi ps position fun q => law.part hp
  | many body =>
    exact law.holds_traceMany hi body fuel [] position (law.part hp List.mem_cons_self)
  | optional body | transform f body | tryTransform f body | tag accepts body
  | guarded accepts body => exact law.holds_mapOutcome (hparts body List.mem_cons_self) _
  | labelled label body => exact hparts body List.mem_cons_self
  | deferred cell => exact law.holds_resolve hi cell position hp
  | rule slot => exact law.holds_traceBody hi slot position (.inl hp)
  | handle slot => exact law.holds_traceBody hi slot position (.inr hp)

end

/-! ## Runs -/

/-- A law holds of every run. -/
theorem trace (fuel : Nat) (p : Parser) (position : Nat) {a : γ} {s : Store} (hp : I a s p) :
    Holds Q a s (p.trace input fuel position s) := by
  induction fuel generalizing p position a s with
  | zero => exact fun _ _ _ h => nomatch h
  | succ fuel ih =>
    intro step t ts h
    obtain ⟨t', inner, hinside, rfl, rfl⟩ := Parser.exists_inside_of_trace h
    obtain ⟨b, hq⟩ := law.holds_inside (fun p a s position hp => ih p position hp) fuel p position
      hp _ _ _ hinside
    exact ⟨b, law.call hp hq ⟨_, h⟩⟩

/-- A law holds of what happens in an invocation. -/
theorem traces {p : Parser} {position : Nat} {a : γ} {s : Store} {inner : List Trace} {step : Step}
    {t : Store} (hp : I a s p) (h : p.Traces input position s inner step t) :
    ∃ b, Q a s (Grammar.error? step) b t [.call p position inner step t] := by
  obtain ⟨fuel, h⟩ := h
  exact law.trace fuel p position hp _ _ _ h

end

end Law

/-! ## What a parser does itself -/

/-- All that happens has the property; what happens further down does not matter. -/
def Traced.All (P : Trace → Prop) (result : Traced) : Prop :=
  ∀ step t ts, result = some (step, t, ts) → ∀ x ∈ ts, P x

namespace Parser

open Traced (All)

variable {P : Trace → Prop}

theorem all_some (step : Step) (t : Store) : All P (some (step, t, [])) := by
  intro _ _ _ h
  cases h
  exact fun _ hx => nomatch hx

theorem all_andThen {result : Traced} {next : Outcome Value → Store → Traced}
    (hr : All P result) (hn : ∀ o t, All P (next o t)) : All P (result.andThen next) := by
  intro step u us h x hx
  obtain ⟨error, he, rfl⟩ | ⟨o, t, ts, ts', ho, hnext, rfl⟩ := Traced.exists_of_andThen h
  · exact hr _ _ _ he x hx
  · rcases List.mem_append.1 hx with hx | hx
    · exact hr _ _ _ ho x hx
    · exact hn o t _ _ _ hnext x hx

section
variable {invoke : Parser → Tracing} (hi : ∀ p position s, All P (invoke p position s))
include hi

theorem all_traceSequence (ps : List Parser) (done : List Value) (position : Nat) (s : Store) :
    All P (traceSequence invoke ps done position s) := by
  induction ps generalizing done position s with
  | nil => exact all_some _ _
  | cons p ps ih =>
    refine all_andThen (hi p position s) fun o t => ?_
    cases o with
    | success v next => exact ih _ _ _
    | failure next | rejected v next => exact all_some _ _

theorem all_traceChoice (ps : List Parser) (position : Nat) (s : Store) :
    All P (traceChoice invoke ps position s) := by
  induction ps generalizing s with
  | nil => exact all_some _ _
  | cons p ps ih =>
    refine all_andThen (hi p position s) fun o t => ?_
    split
    · exact all_some _ _
    · exact ih t

theorem all_traceMany (hstall : ∀ n, P (.event (.repetitionStalled n))) (p : Parser) (fuel : Nat)
    (done : List Value) (position : Nat) (s : Store) :
    All P (traceMany (invoke p) fuel done position s) := by
  induction fuel generalizing done position s with
  | zero => exact fun _ _ _ h => nomatch h
  | succ fuel ih =>
    refine all_andThen (hi p position s) fun o t => ?_
    cases o with
    | success v next =>
      dsimp only
      split
      · intro _ _ _ h
        cases h
        exact List.forall_mem_singleton.2 (hstall position)
      · exact ih _ _ _
    | failure next | rejected v next => exact all_some _ _

theorem all_traceBody (slot position : Nat) (s : Store) :
    All P (traceBody invoke slot position s) := by
  unfold traceBody
  split
  · exact all_some _ _
  · exact hi _ _ _

end

/-- A parser invokes others; only a repetition reports that it stalls, and only a deferred parser
has a cell to resolve. -/
theorem Traces.all {input : List Char} {p : Parser} {position : Nat} {s t : Store}
    {inner : List Trace} {step : Step} (h : p.Traces input position s inner step t)
    (hcall : ∀ q n deeper step u, P (.call q n deeper step u))
    (hstall : ∀ body n, p = .many body → P (.event (.repetitionStalled n)))
    (hresolve : ∀ cell, p = .deferred cell → ∀ x ∈ s.resolving cell, P x) :
    ∀ x ∈ inner, P x := by
  obtain ⟨fuel, t', h⟩ := h.exists_inside
  have hi : ∀ q n u, All P (trace input fuel q n u) := by
    intro q n u step v ts hts
    obtain ⟨deeper, rfl, -⟩ := exists_call_of_trace hts
    exact List.forall_mem_singleton.2 (hcall _ _ _ _ _)
  suffices hall : All P (p.inside input fuel (trace input fuel) position s) from hall _ _ _ h
  cases p with
  | literal | charClass | pattern | custom => exact all_some _ _
  | sequence ps => exact all_traceSequence hi ps [] position s
  | choice ps => exact all_traceChoice hi ps position s
  | many body => exact all_traceMany hi (hstall body · rfl) body fuel [] position s
  | optional body | transform f body | tryTransform f body | tag accepts body
  | guarded accepts body => exact all_andThen (hi body position s) fun _ _ => all_some _ _
  | labelled label body => exact hi body position s
  | handle slot | rule slot => exact all_traceBody hi slot position s
  | deferred cell =>
    intro step u us hafter x hx
    obtain ⟨ts, hr, rfl⟩ := Traced.exists_of_after hafter
    rcases List.mem_append.1 hx with hx | hx
    · exact hresolve cell rfl x hx
    · exact hi _ _ _ _ _ _ hr x hx

/-- A deferred parser has its cell resolved first. -/
theorem Traces.exists_append_of_deferred {input : List Char} {cell position : Nat} {s t : Store}
    {inner : List Trace} {step : Step} (h : (deferred cell).Traces input position s inner step t) :
    ∃ ts, inner = s.resolving cell ++ ts := by
  obtain ⟨_, _, h⟩ := h.exists_inside
  obtain ⟨ts, -, rfl⟩ := Traced.exists_of_after h
  exact ⟨ts, rfl⟩

end Parser

/-! ## Invocations within invocations -/

/-- Each invocation among the traces is one that takes place. -/
def Trace.Genuine (input : List Char) : Account Unit := fun _ _ _ _ _ ts =>
  ∀ p position inner step store, (Trace.call p position inner step store).Among ts →
    ∃ before, p.Traces input position before inner step store

theorem Trace.genuine_of_forall {input : List Char} {a b : Unit} {s t : Store}
    {error? : Option GrammarError} {ts : List Trace}
    (h : ∀ p position inner step store, Trace.call p position inner step store ∉ ts) :
    Genuine input a s error? b t ts := by
  rintro p position inner step store (hc | ⟨hc, -⟩)
  · exact (h _ _ _ _ _ hc).elim
  · exact (h _ _ _ _ _ hc).elim

theorem Trace.law_genuine (input : List Char) :
    Law input (fun _ _ _ => True) (Trace.Genuine input) where
  part _ _ := trivial
  body _ _ := trivial
  keeps _ _ := trivial
  nil _ _ _ := genuine_of_forall fun _ _ _ _ _ => List.not_mem_nil
  append h h' p position inner step store hc :=
    (among_append_iff.1 hc).elim (h p position inner step store) (h' p position inner step store)
  stall _ _ _ := genuine_of_forall fun _ _ _ _ _ => by simp
  resolve {_ s cell} _ := ⟨(), genuine_of_forall (s.call_notMem_resolving cell), trivial⟩
  call {_ _ s _ _ _ _ _} _ h ht p position inner step store hc := by
    rcases among_call_iff.1 hc with heq | hc
    · cases heq
      exact ⟨s, ht⟩
    · exact h p position inner step store hc

/-- Each invocation within an invocation takes place. -/
theorem Parser.Traces.genuine {input : List Char} {p q : Parser} {position n : Nat} {s t u : Store}
    {inner deeper : List Trace} {step step' : Step} (h : p.Traces input position s inner step t)
    (hq : (Trace.call q n deeper step' u).Among [.call p position inner step t]) :
    ∃ before, q.Traces input n before deeper step' u := by
  obtain ⟨_, hg⟩ := (Trace.law_genuine input).traces (a := ()) trivial h
  exact hg _ _ _ _ _ hq

/-! ## What the store keeps a record of -/

namespace Trace

/-- The events, the failures and the number of factories are those of the traces. -/
structure Accounts (s t : Store) (ts : List Trace) : Prop where
  events : t.events = s.events ++ (events ts).toArray
  tracker : t.tracker = s.tracker.recordAll (failures ts)
  built : t.built = s.built + (started ts).length

section
variable {s t u : Store} {ts us : List Trace}

theorem Accounts.nil (s : Store) : Accounts s s [] :=
  ⟨by simp [Trace.events], rfl, rfl⟩

theorem Accounts.append (h : Accounts s t ts) (h' : Accounts t u us) :
    Accounts s u (ts ++ us) where
  events := by simp [h'.events, h.events]
  tracker := by rw [h'.tracker, h.tracker, failures_append, Tracker.recordAll_append]
  built := by simp [h'.built, h.built, Nat.add_assoc]

/-- Running a factory is reported and counted. -/
theorem accounts_resolving (cell : Nat) (s : Store) :
    Accounts s (s.resolve cell).2 (s.resolving cell) := by
  obtain ⟨hs, hnil⟩ | ⟨factory, hf⟩ := s.idle_or_empty cell
  · rw [hs, hnil]
    exact .nil s
  · have hx := factory.extended_run s.beforeFactory
    refine ⟨Store.events_resolving hf, ?_, ?_⟩
    · rw [Store.failures_resolving hf, Store.resolve_of_empty hf]
      exact hx.grown.tracker
    · rw [Store.started_resolving hf, Store.resolve_of_empty hf]
      exact hx.built

end

theorem law_accounts (input : List Char) :
    Law input (fun (_ : Unit) _ _ => True) fun _ s _ _ t ts => Accounts s t ts where
  part _ _ := trivial
  body _ _ := trivial
  keeps _ _ := trivial
  nil _ s _ := .nil s
  append := .append
  stall _ s position := ⟨by apply Array.toList_inj.1; simp [Store.report, events], rfl, rfl⟩
  resolve {_ s cell} _ := ⟨(), accounts_resolving cell s, trivial⟩
  call _ h _ := {
    events := by simp [h.events]
    tracker := by
      rw [Parser.tracker_conclude, h.tracker, ← Tracker.recordAll_append, failures_call]
    built := by simp [h.built] }

end Trace

/-- The trace of an invocation accounts for all that the store keeps a record of. -/
theorem Parser.Traces.accounts {input : List Char} {p : Parser} {position : Nat} {s t : Store}
    {inner : List Trace} {step : Step} (h : p.Traces input position s inner step t) :
    Trace.Accounts s t [.call p position inner step t] := by
  obtain ⟨_, ha⟩ := (Trace.law_accounts input).traces (a := ()) trivial h
  exact ha

end Descent
