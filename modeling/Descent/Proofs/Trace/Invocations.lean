import Descent.Proofs.Trace.Errors

/-!
# The invocations in a trace

What happens at once in an invocation are invocations that it makes (`Invocation.makesAll_inside`),
so that every invocation in a trace is reached from the outermost one by steps of
`Invocation.Makes` (`Parser.Traces.reaches`): what is shown of all that is reached holds of all that
a run invokes.
-/

namespace Descent

namespace Invocation

/-- The invocations among the traces are made by `i`. -/
def MakesAll (input : List Char) (i : Invocation) (ts : List Trace) : Prop :=
  ∀ q n deeper step u, .call q n deeper step u ∈ ts →
    ∃ before, i.Makes input ⟨q, n, before⟩ ∧ q.Traces input n before deeper step u

section
variable {input : List Char} {i i' : Invocation} {ts us : List Trace}

theorem makesAll_nil : i.MakesAll input [] := fun _ _ _ _ _ h => nomatch h

theorem MakesAll.append (h : i.MakesAll input ts) (h' : i.MakesAll input us) :
    i.MakesAll input (ts ++ us) := by
  intro q n deeper step u hmem
  obtain hmem | hmem := List.mem_append.1 hmem
  · exact h q n deeper step u hmem
  · exact h' q n deeper step u hmem

/-- What `i'` makes `i` makes. -/
theorem MakesAll.imp (h : i'.MakesAll input ts)
    (hi : ∀ j, i'.Makes input j → i.Makes input j) : i.MakesAll input ts := by
  intro q n deeper step u hmem
  obtain ⟨before, hmakes, ht⟩ := h q n deeper step u hmem
  exact ⟨before, hi _ hmakes, ht⟩

/-- One invocation is all that happens. -/
theorem makesAll_of_trace {depth : Nat} {q : Parser} {n : Nat} {s t : Store} {step : Step}
    (hi : i.Makes input ⟨q, n, s⟩) (h : Parser.trace input depth q n s = some (step, t, ts)) :
    i.MakesAll input ts := by
  obtain ⟨inner, rfl, ht⟩ := Parser.exists_call_of_trace h
  intro q' n' deeper step' u hmem
  cases List.mem_singleton.1 hmem
  exact ⟨s, hi, ht⟩

theorem result_of_trace {depth : Nat} {q : Parser} {n : Nat} {s t : Store} {step : Step}
    (h : Parser.trace input depth q n s = some (step, t, ts)) :
    result input ⟨q, n, s⟩ = some (step, t) := by
  obtain ⟨inner, -, ht⟩ := Parser.exists_call_of_trace h
  exact Parser.invoke_iff_traces.2 ⟨inner, ht⟩

end

section
variable {input : List Char} {depth position : Nat} {s t : Store} {step : Step} {ts : List Trace}

theorem makesAll_sequence {ps : List Parser} {done : List Value}
    (h : Parser.traceSequence (Parser.trace input depth) ps done position s =
      some (step, t, ts)) : MakesAll input ⟨.sequence ps, position, s⟩ ts := by
  induction ps generalizing done position s ts with
  | nil =>
    cases h
    exact makesAll_nil
  | cons p ps ih =>
    obtain ⟨error, he, rfl⟩ | ⟨o, s', ts₁, ts₂, ho, hnext, rfl⟩ := Traced.exists_of_andThen h
    · exact makesAll_of_trace (.first rfl) he
    · refine (makesAll_of_trace (.first rfl) ho).append ?_
      cases o with
      | failure next | rejected v next =>
        cases hnext
        exact makesAll_nil
      | success v next => exact (ih hnext).imp fun j => .part (result_of_trace ho)

theorem makesAll_choice {ps : List Parser}
    (h : Parser.traceChoice (Parser.trace input depth) ps position s = some (step, t, ts)) :
    MakesAll input ⟨.choice ps, position, s⟩ ts := by
  induction ps generalizing s ts with
  | nil =>
    cases h
    exact makesAll_nil
  | cons p ps ih =>
    obtain ⟨error, he, rfl⟩ | ⟨o, s', ts₁, ts₂, ho, hnext, rfl⟩ := Traced.exists_of_andThen h
    · exact makesAll_of_trace (.first rfl) he
    · refine (makesAll_of_trace (.first rfl) ho).append ?_
      split at hnext
      · cases hnext
        exact makesAll_nil
      · rename_i hm
        exact (ih hnext).imp fun j => .alternative (result_of_trace ho) (by simpa using hm)

theorem makesAll_many {p : Parser} {fuel : Nat} {done : List Value}
    (h : Parser.traceMany (Parser.trace input depth p) fuel done position s =
      some (step, t, ts)) : MakesAll input ⟨.many p, position, s⟩ ts := by
  induction fuel generalizing done position s ts with
  | zero => cases h
  | succ fuel ih =>
    obtain ⟨error, he, rfl⟩ | ⟨o, s', ts₁, ts₂, ho, hnext, rfl⟩ := Traced.exists_of_andThen h
    · exact makesAll_of_trace (.first rfl) he
    · refine (makesAll_of_trace (.first rfl) ho).append ?_
      cases o with
      | failure next | rejected v next =>
        cases hnext
        exact makesAll_nil
      | success v next =>
        dsimp only at hnext
        split at hnext
        · cases hnext
          exact fun _ _ _ _ _ hmem => nomatch List.mem_singleton.1 hmem
        · rename_i hne
          exact (ih hnext).imp fun j => .iteration (result_of_trace ho) hne

theorem makesAll_mapOutcome {p q : Parser} {f : Outcome Value → Outcome Value}
    (hp : p.parts = [q])
    (h : (Parser.trace input depth q position s).mapOutcome f = some (step, t, ts)) :
    MakesAll input ⟨p, position, s⟩ ts := by
  obtain ⟨error, he, rfl⟩ | ⟨o, s', ts₁, ts₂, ho, hnext, rfl⟩ := Traced.exists_of_andThen h
  · exact makesAll_of_trace (.first hp) he
  · cases hnext
    exact (makesAll_of_trace (.first hp) ho).append makesAll_nil

theorem makesAll_body {p : Parser} {slot : Nat}
    (hp : ∀ q, s.body slot = .ok q → Makes input ⟨p, position, s⟩ ⟨q, position, s⟩)
    (h : Parser.traceBody (Parser.trace input depth) slot position s = some (step, t, ts)) :
    MakesAll input ⟨p, position, s⟩ ts := by
  unfold Parser.traceBody at h
  split at h
  · cases h
    exact makesAll_nil
  · rename_i q hq
    exact makesAll_of_trace (hp q hq) h

/-- What an invocation does at once is to make others. -/
theorem makesAll_inside {p : Parser} {fuel : Nat}
    (h : p.inside input fuel (Parser.trace input depth) position s = some (step, t, ts)) :
    MakesAll input ⟨p, position, s⟩ ts := by
  cases p with
  | literal | charClass | pattern | custom =>
    cases h
    exact makesAll_nil
  | sequence ps => exact makesAll_sequence h
  | choice ps => exact makesAll_choice h
  | many body => exact makesAll_many h
  | deferred cell =>
    obtain ⟨ts', hbody, rfl⟩ := Traced.exists_of_after h
    have hnone : MakesAll input ⟨.deferred cell, position, s⟩ (s.resolving cell) :=
      fun q n deeper step' u hmem =>
        absurd hmem (s.call_notMem_resolving cell q n deeper step' u)
    exact hnone.append (makesAll_of_trace .deferred hbody)
  | handle slot => exact makesAll_body (fun q => .handle) h
  | rule slot => exact makesAll_body (fun q => .rule) h
  | labelled label body => exact makesAll_of_trace (.first rfl) h
  | optional body | transform f body | tryTransform f body | tag accepts body
  | guarded accepts body => exact makesAll_mapOutcome rfl h

end

end Invocation

namespace Parser.Traces

variable {input : List Char} {p q : Parser} {position n : Nat} {s t u : Store}
  {inner deeper : List Trace} {step step' : Step}

theorem exists_makes (h : p.Traces input position s inner step t)
    (hq : .call q n deeper step' u ∈ inner) :
    ∃ before, Invocation.Makes input ⟨p, position, s⟩ ⟨q, n, before⟩ ∧
      q.Traces input n before deeper step' u := by
  obtain ⟨fuel, s', hinside⟩ := h.exists_inside
  exact Invocation.makesAll_inside hinside q n deeper step' u hq

theorem reaches_inside {c : Trace} (hc : c.Among inner) (h : p.Traces input position s inner step t)
    (hq : c = .call q n deeper step' u) :
    ∃ before, Relation.ReflTransGen (Invocation.Makes input) ⟨p, position, s⟩ ⟨q, n, before⟩ ∧
      Invocation.result input ⟨q, n, before⟩ = some (step', u) := by
  induction hc generalizing p position s t step with
  | here hmem =>
    subst hq
    obtain ⟨before, hmakes, ht⟩ := h.exists_makes hmem
    exact ⟨before, .single hmakes, invoke_iff_traces.2 ⟨_, ht⟩⟩
  | inside hmem _ ih =>
    obtain ⟨between, hmakes, ht⟩ := h.exists_makes hmem
    obtain ⟨before, hreach, hresult⟩ := ih ht
    exact ⟨before, .head hmakes hreach, hresult⟩

/-- Every invocation in the trace of an invocation is reached from it, with the answer that the
trace tells. -/
theorem reaches (h : p.Traces input position s inner step t)
    (hq : (Trace.call q n deeper step' u).Among [.call p position inner step t]) :
    ∃ before, Relation.ReflTransGen (Invocation.Makes input) ⟨p, position, s⟩ ⟨q, n, before⟩ ∧
      Invocation.result input ⟨q, n, before⟩ = some (step', u) := by
  obtain heq | hin := Trace.among_call_iff.1 hq
  · cases heq
    exact ⟨s, .refl, invoke_iff_traces.2 ⟨_, h⟩⟩
  · exact reaches_inside hin h rfl

end Parser.Traces

end Descent
