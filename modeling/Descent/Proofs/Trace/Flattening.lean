import Descent.Parser.Tuple
import Descent.Proofs.Trace.Equations

/-!
# Flattening

A choice within a choice and a sequence within a sequence may be written out (`Parser.flattening_agrees`): the
same parts are invoked at the same positions and in the same order, so that they answer the same and
leave the same store behind. All that goes is the invocation around the inner parts
(`Trace.Spliced`), and for a match of a sequence the list around their values (`Step.Spliced`).

A sequence or a choice of a tuple, which has a block for each part, invokes the parts as the loop over
a list of them does (`Parser.runTuple_eq`, `Parser.runEither_eq`).
-/

namespace Descent

/-! ## What is spliced -/

/-- In a match, the values of the second step are those of the first, with the `m` values of a list
behind the first `n` put in its place. All else is the same. -/
inductive Step.Spliced (n m : Nat) : Step → Step → Prop
  | success {front inner back : List Value} {next : Nat} : front.length = n → inner.length = m →
      Spliced n m (.ok (.success (.arr (front ++ .arr inner :: back)) next))
        (.ok (.success (.arr (front ++ inner ++ back)) next))
  | failure {next : Nat} : Spliced n m (.ok (.failure next)) (.ok (.failure next))
  | error {error : GrammarError} : Spliced n m (.error error) (.error error)

/-- The same happens, or what happens inside one invocation of `p` happens without it. -/
inductive Trace.Spliced (p : Parser) : List Trace → List Trace → Prop
  | same {ts : List Trace} : Spliced p ts ts
  | inside {front inner back : List Trace} {position : Nat} {step : Step} {t : Store} :
      Spliced p (front ++ .call p position inner step t :: back) (front ++ inner ++ back)

/-- Results with related steps, the same store and spliced traces, or none. -/
inductive Traced.Spliced (R : Step → Step → Prop) (p : Parser) : Traced → Traced → Prop
  | none : Spliced R p none none
  | some {step step' : Step} {t : Store} {ts ts' : List Trace} : R step step' →
      Trace.Spliced p ts ts' → Spliced R p (some (step, t, ts)) (some (step', t, ts'))

section
variable {p : Parser} {ts ts' us : List Trace}

theorem Trace.Spliced.append_left (h : Trace.Spliced p ts ts') (us : List Trace) :
    Trace.Spliced p (us ++ ts) (us ++ ts') := by
  cases h with
  | same => exact .same
  | @inside front inner back position step t =>
    rw [← List.append_assoc us front, ← List.append_assoc us, ← List.append_assoc us front]
    exact .inside

end

namespace Traced

variable {R : Step → Step → Prop} {p : Parser} {r r' : Traced} {position : Nat}

theorem mapStep_after (f : Step → Step) (ts : List Trace) (r : Traced) :
    mapStep f (r.after ts) = Traced.after ts (mapStep f r) := by
  cases r <;> rfl

@[simp] theorem after_nil (r : Traced) : r.after [] = r := by
  cases r <;> rfl

theorem after_append (ts us : List Trace) (r : Traced) :
    r.after (ts ++ us) = (r.after us).after ts := by
  cases r with
  | none => rfl
  | some a => simp [after]

/-- What goes on after what goes on. -/
theorem andThen_assoc (r : Traced) (next next' : Outcome Value → Store → Traced) :
    (r.andThen next).andThen next' = r.andThen fun o t => (next o t).andThen next' := by
  obtain _ | ⟨error | o, t, ts⟩ := r
  · rfl
  · rfl
  · show (after ts (next o t)).andThen next' = after ts ((next o t).andThen next')
    obtain _ | ⟨error | o', u, us⟩ := next o t
    · rfl
    · rfl
    · exact after_append ts us (next' o' u)

theorem Spliced.after (h : r.Spliced R p r') (ts : List Trace) :
    (r.after ts).Spliced R p (r'.after ts) := by
  cases h with
  | none => exact .none
  | some hstep hts => exact .some hstep (hts.append_left ts)

/-- The same first, and then what is spliced. -/
theorem Spliced.andThen {next next' : Outcome Value → Store → Traced}
    (he : ∀ error, R (.error error) (.error error))
    (h : ∀ o t, (next o t).Spliced R p (next' o t)) :
    (r.andThen next).Spliced R p (r.andThen next') := by
  obtain _ | ⟨error | o, t, ts⟩ := r
  · exact .none
  · exact .some (he error) .same
  · exact (h o t).after ts

end Traced

namespace Parser

/-! ## Lists of parts -/

section
variable (invoke : Parser → Tracing)

/-- The alternatives of a list are tried before those behind it. -/
theorem traceChoice_append (ps qs : List Parser) (position : Nat) (s : Store) :
    traceChoice invoke (ps ++ qs) position s =
      (traceChoice invoke ps position s).andThen fun o t =>
        if o.matched then some (.ok o, t, []) else traceChoice invoke qs position t := by
  induction ps generalizing s with
  | nil => exact (Traced.after_nil _).symm
  | cons p ps ih =>
    rw [List.cons_append, traceChoice, traceChoice, Traced.andThen_assoc]
    congr 1
    funext o t
    by_cases ho : o.matched = true
    · rw [if_pos ho, if_pos ho]
      show _ = Traced.after [] (if o.matched = true then _ else _)
      rw [if_pos ho, Traced.after_nil]
    · rw [if_neg ho, if_neg ho, ih]

/-- The parts of a list are invoked before those behind it. -/
theorem traceSequence_append (ps qs : List Parser) (done done' : List Value) (position : Nat)
    (s : Store) :
    traceSequence invoke (ps ++ qs) (done ++ done') position s =
      (traceSequence invoke ps done position s).andThen fun o t =>
        match o with
        | .success (.arr vs) next => traceSequence invoke qs (vs.reverse ++ done') next t
        | o => some (.ok (.failure o.next), t, []) := by
  induction ps generalizing done position s with
  | nil =>
    show _ = Traced.after [] (traceSequence invoke qs (done.reverse.reverse ++ done') position s)
    rw [Traced.after_nil, List.reverse_reverse, List.nil_append]
  | cons p ps ih =>
    rw [List.cons_append, traceSequence, traceSequence, Traced.andThen_assoc]
    congr 1
    funext o t
    cases o with
    | success v next => exact ih (v :: done) next t
    | failure next | rejected v next => rfl

/-- The values so far stand in front of the others. -/
theorem traceSequence_eq_consAll (ps : List Parser) (done : List Value) (position : Nat)
    (s : Store) :
    traceSequence invoke ps done position s =
      mapStep (Step.consAll done) (traceSequence invoke ps [] position s) := by
  induction ps generalizing done position s with
  | nil => simp [traceSequence, mapStep, Step.consAll_arr]
  | cons p ps ih =>
    rw [traceSequence, traceSequence]
    obtain _ | ⟨error | ⟨v, next⟩ | next | ⟨v, next⟩, t, ts⟩ := invoke p position s
    · rfl
    · simp [mapStep, Traced.andThen]
    · show (traceSequence invoke ps (v :: done) next t).after ts =
        mapStep (Step.consAll done) ((traceSequence invoke ps [v] next t).after ts)
      rw [ih (v :: done), ih [v], Traced.mapStep_after, mapStep_mapStep]
      rfl
    · simp [mapStep, Traced.andThen, Traced.after]
    · simp [mapStep, Traced.andThen, Traced.after]

/-- A sequence matches with as many values as it has parts, or fails. -/
theorem exists_of_traceSequence {invoke : Parser → Tracing} {ps : List Parser} {position : Nat}
    {s t : Store} {o : Outcome Value} {ts : List Trace}
    (h : traceSequence invoke ps [] position s = some (.ok o, t, ts)) :
    (∃ vs next, o = .success (.arr vs) next ∧ vs.length = ps.length) ∨ ∃ next, o = .failure next := by
  induction ps generalizing position s o ts with
  | nil =>
    cases h
    exact .inl ⟨[], position, rfl, rfl⟩
  | cons p ps ih =>
    rw [traceSequence] at h
    obtain ⟨error, -, he⟩ | ⟨o', s', ts₁, ts₂, -, hnext, -⟩ := Traced.exists_of_andThen h
    · cases he
    · cases o' with
      | success v next =>
        dsimp only at hnext
        rw [traceSequence_eq_consAll, mapStep, Option.map_eq_some_iff] at hnext
        obtain ⟨⟨step, u, us⟩, hrest, heq⟩ := hnext
        simp only [Prod.mk.injEq] at heq
        obtain ⟨hstep, rfl, rfl⟩ := heq
        cases step with
        | error error => cases hstep
        | ok o'' =>
          obtain ⟨vs, last, rfl, hlength⟩ | ⟨last, rfl⟩ := ih hrest
          · cases hstep
            exact .inl ⟨v :: vs, last, rfl, by simp [hlength]⟩
          · cases hstep
            exact .inr ⟨last, rfl⟩
      | failure next | rejected v next =>
        cases hnext
        exact .inr ⟨next, rfl⟩

end

/-! ## Writing out -/

/-- What happens inside `p`, and what goes on behind it. -/
theorem spliced_enclose {R : Step → Step → Prop} {p : Parser} {position : Nat} {r : Traced}
    {next next' : Outcome Value → Store → Traced}
    (hp : ∀ step t, p.conclude position step t = t) (he : ∀ error, R (.error error) (.error error))
    (h : ∀ o t ts, r = some (.ok o, t, ts) →
      Option.Rel (fun a b => R a.1 b.1 ∧ a.2 = b.2) (next o t) (next' o t)) :
    ((p.enclose position r).andThen next).Spliced R p (r.andThen next') := by
  obtain _ | ⟨error | o, t, ts⟩ := r
  · exact .none
  · have hts := @Trace.Spliced.inside p [] ts [] position (.error error) t
    rw [List.append_nil] at hts
    simp only [enclose, Option.map_some, hp]
    exact .some (he error) hts
  · have hnext := h o t ts rfl
    simp only [enclose, Option.map_some, hp]
    show (Traced.after [.call p position ts (.ok o) t] (next o t)).Spliced R p
      (Traced.after ts (next' o t))
    generalize next o t = r₁ at hnext
    generalize next' o t = r₂ at hnext
    cases hnext with
    | none => exact .none
    | @some a b hab =>
      obtain ⟨step, u, us⟩ := a
      obtain ⟨step', rest⟩ := b
      obtain ⟨hstep, rfl⟩ := hab
      exact .some hstep (@Trace.Spliced.inside p [] ts us position (.ok o) t)

section
variable {input : List Char} {position : Nat} {s t : Store} {inner : List Trace} {step : Step}

theorem traceChoice_spliced (xs ys zs : List Parser) :
    (traceChoice (fun p => p.traced input) (xs ++ choice ys :: zs) position s).Spliced Eq (choice ys)
      (traceChoice (fun p => p.traced input) (xs ++ ys ++ zs) position s) := by
  rw [List.append_assoc, traceChoice_append, traceChoice_append]
  refine .andThen (fun _ => rfl) fun o t => ?_
  by_cases ho : o.matched = true
  · rw [if_pos ho, if_pos ho]
    exact .some rfl .same
  · rw [if_neg ho, if_neg ho, traceChoice, traced_choice, traceChoice_append]
    refine spliced_enclose (fun _ _ => rfl) (fun _ => rfl) fun o t _ _ => ?_
    generalize (if o.matched = true then _ else _ : Traced) = r
    cases r with
    | none => exact .none
    | some a => exact .some ⟨rfl, rfl⟩

/-- The values of an inner sequence in front of those of the parts behind it. -/
theorem spliced_consAll {ps : List Parser} {done vs : List Value} {ts : List Trace} {m : Nat}
    (hm : vs.length = m)
    (h : traceSequence (fun p => p.traced input) ps [] position s = some (step, t, ts)) :
    (step.consAll (.arr vs :: done)).Spliced done.length m (step.consAll (vs.reverse ++ done)) := by
  cases step with
  | error error =>
    rw [Step.consAll_error, Step.consAll_error]
    exact .error
  | ok o =>
    obtain ⟨ws, next, rfl, -⟩ | ⟨next, rfl⟩ := exists_of_traceSequence h
    · rw [Step.consAll_arr, Step.consAll_arr]
      simp only [List.reverse_cons, List.reverse_append, List.reverse_reverse, List.append_assoc,
        List.singleton_append]
      rw [← List.append_assoc]
      exact .success (List.length_reverse ..) hm
    · rw [Step.consAll_failure, Step.consAll_failure]
      exact .failure

theorem traceSequence_spliced (xs ys zs : List Parser) (done : List Value) :
    (traceSequence (fun p => p.traced input) (xs ++ sequence ys :: zs) done position s).Spliced
      (Step.Spliced (done.length + xs.length) ys.length) (sequence ys)
      (traceSequence (fun p => p.traced input) (xs ++ ys ++ zs) done position s) := by
  induction xs generalizing done position s with
  | nil =>
    have happend := traceSequence_append (fun p => p.traced input) ys zs [] done position s
    rw [List.nil_append] at happend
    rw [List.nil_append, List.nil_append, happend, traceSequence, traced_sequence]
    refine spliced_enclose (fun _ _ => rfl) (fun _ => .error) fun o t ts h => ?_
    obtain ⟨vs, next, rfl, hlength⟩ | ⟨next, rfl⟩ := exists_of_traceSequence h
    · dsimp only
      rw [traceSequence_eq_consAll _ zs (.arr vs :: done),
        traceSequence_eq_consAll _ zs (vs.reverse ++ done)]
      cases hrest : traceSequence (fun p => p.traced input) zs [] next t with
      | none => exact .none
      | some a => exact .some ⟨spliced_consAll hlength hrest, rfl⟩
    · exact .some ⟨.failure, rfl⟩
  | cons x xs ih =>
    rw [List.cons_append, List.cons_append, List.cons_append, traceSequence, traceSequence]
    refine .andThen (fun _ => .error) fun o t => ?_
    cases o with
    | success v next =>
      have hlength : (v :: done).length + xs.length = done.length + (x :: xs).length := by
        simp only [List.length_cons]
        omega
      rw [← hlength]
      exact ih (v :: done)
    | failure next | rejected v next => exact .some .failure .same

end

/-- Wherever they are invoked, the second parser comes to what the first comes to, with related steps
and the same store, and what happens in it is what happens in the first, but for one invocation of `q`
around some of it. -/
structure WritesOut (R : Step → Step → Prop) (q p p' : Parser) (input : List Char) : Prop where
  answers (position : Nat) (s : Store) : Option.Rel (fun a b => R a.1 b.1 ∧ a.2 = b.2)
    (p.invoke input position s) (p'.invoke input position s)
  traces (position : Nat) (s : Store) (inner : List Trace) (step : Step) (t : Store) :
    p.Traces input position s inner step t →
      ∃ inner' step', p'.Traces input position s inner' step' t ∧ R step step' ∧
        Trace.Spliced q inner inner'

section
variable {R : Step → Step → Prop} {q p p' : Parser} {input : List Char} {position : Nat} {s : Store}

/-- What happens in an invocation is what the parser does, if the parser records nothing itself. -/
theorem traces_iff_of_enclose {r : Traced} {inner : List Trace} {step : Step} {t : Store}
    (hp : ∀ step t, p.conclude position step t = t)
    (h : p.traced input position s = p.enclose position r) :
    p.Traces input position s inner step t ↔ r = some (step, t, inner) := by
  rw [traces_iff, h, enclose, Option.map_eq_some_iff]
  constructor
  · rintro ⟨⟨step', t', inner'⟩, hr, heq⟩
    simp only [hp, Prod.mk.injEq, List.cons.injEq, Trace.call.injEq, true_and, and_true] at heq
    obtain ⟨rfl, rfl, rfl, -⟩ := heq
    exact hr
  · intro hr
    exact ⟨_, hr, by simp only [hp]⟩

/-- Parsers that record nothing themselves, and do what is spliced. -/
theorem writesOut_of_spliced {r r' : Nat → Store → Traced}
    (hp : ∀ position step t, p.conclude position step t = t)
    (hp' : ∀ position step t, p'.conclude position step t = t)
    (h : ∀ position s, p.traced input position s = p.enclose position (r position s))
    (h' : ∀ position s, p'.traced input position s = p'.enclose position (r' position s))
    (hr : ∀ position s, (r position s).Spliced R q (r' position s)) : WritesOut R q p p' input := by
  constructor
  · intro position s
    rw [← forget_traced, ← forget_traced, h, h', forget_enclose (hp position),
      forget_enclose (hp' position)]
    have hspliced := hr position s
    generalize r position s = r₁ at hspliced
    generalize r' position s = r₂ at hspliced
    cases hspliced with
    | none => exact .none
    | some hstep _ => exact .some ⟨hstep, rfl⟩
  · intro position s inner step t ht
    have hspliced := hr position s
    rw [(traces_iff_of_enclose (hp position) (h position s)).1 ht] at hspliced
    generalize hflat : r' position s = r₂ at hspliced
    cases hspliced with
    | some hstep hts =>
      exact ⟨_, _, (traces_iff_of_enclose (hp' position) (h' position s)).2 hflat, hstep, hts⟩

end

theorem choice_writesOut (xs ys zs : List Parser) (input : List Char) :
    WritesOut Eq (choice ys) (choice (xs ++ choice ys :: zs)) (choice (xs ++ ys ++ zs)) input :=
  writesOut_of_spliced (fun _ _ _ => rfl) (fun _ _ _ => rfl) (fun _ _ => traced_choice _)
    (fun _ _ => traced_choice _) fun _ _ => traceChoice_spliced xs ys zs

theorem sequence_writesOut (xs ys zs : List Parser) (input : List Char) :
    WritesOut (Step.Spliced xs.length ys.length) (sequence ys) (sequence (xs ++ sequence ys :: zs))
      (sequence (xs ++ ys ++ zs)) input := by
  refine writesOut_of_spliced (fun _ _ _ => rfl) (fun _ _ _ => rfl) (fun _ _ => traced_sequence _)
    (fun _ _ => traced_sequence _) fun position s => ?_
  have h := @traceSequence_spliced input position s xs ys zs []
  rwa [List.length_nil, Nat.zero_add] at h

/-! ## Tuples -/

/-- The blocks for the parts of a tuple do what the loop over a list of them does, whatever it is to
invoke a part. -/
theorem runTuple_eq (invoke : Parser → Invoke) (ps : List Parser) :
    runTuple invoke ps = runSequence invoke ps [] := by
  have key : ∀ (ps : List Parser) (values : List Value) (position : Nat) (s : Store),
      ps.foldr (fun part => sequenceBlock (invoke part))
          (fun values position store => some (.ok (.success (.arr values) position), store))
          values position s =
        runSequence invoke ps values.reverse position s := by
    intro ps
    induction ps with
    | nil =>
      intro values position s
      rw [runSequence, List.reverse_reverse]
      rfl
    | cons p ps ih =>
      intro values position s
      rw [List.foldr_cons, sequenceBlock, runSequence]
      congr 1
      funext o t
      cases o with
      | success v next =>
        have hrest := ih (values ++ [v]) next t
        rw [List.reverse_append] at hrest
        exact hrest
      | failure next | rejected v next => rfl
  funext position s
  exact key ps [] position s

theorem runEither_eq (invoke : Parser → Invoke) (ps : List Parser) :
    runEither invoke ps = runChoice invoke ps := by
  funext position s
  induction ps generalizing position s with
  | nil => rfl
  | cons p ps ih =>
    rw [runChoice]
    show choiceBlock (invoke p) (runEither invoke ps) position s = _
    rw [choiceBlock]
    congr 1
    funext o t
    rw [ih]

end Parser

/-- Two definitions are built one after the other. -/
theorem Grammar.exists_of_buildAll_pair {rules : Rules} {named : String → Scope → Build}
    {scope : Scope} {a b : Grammar} {store store' : Store} {ps : List Parser}
    (h : buildAll rules named scope [a, b] store = (.ok ps, store')) :
    ∃ p q store₁, buildWith rules named scope a store = (.ok p, store₁) ∧
      buildWith rules named scope b store₁ = (.ok q, store') ∧ ps = [p, q] := by
  obtain ⟨p, store₁, hp, h⟩ := exists_of_andThen_eq_ok h
  obtain ⟨qs, store₂, hq, h⟩ := exists_of_andThen_eq_ok h
  obtain ⟨q, store₃, hq, hnil⟩ := exists_of_andThen_eq_ok hq
  cases hnil
  cases h
  exact ⟨p, q, store₁, hp, hq, rfl⟩

theorem Grammar.exists_of_build_followedBy {rules : Rules} {scope : Scope} {a b : Grammar}
    {store store' : Store} {r : Parser}
    (h : (a.followedBy b).build rules scope store = (.ok r, store')) :
    ∃ p q store₁, a.build rules scope store = (.ok p, store₁) ∧
      b.build rules scope store₁ = (.ok q, store') ∧ r = .sequence [p, q] := by
  obtain ⟨ps, store₂, hps, h⟩ := exists_of_andThen_eq_ok h
  cases h
  obtain ⟨p, q, store₁, hp, hq, rfl⟩ := exists_of_buildAll_pair hps
  exact ⟨p, q, store₁, hp, hq, rfl⟩

theorem Grammar.exists_of_build_orElse {rules : Rules} {scope : Scope} {a b : Grammar}
    {store store' : Store} {r : Parser}
    (h : (a.orElse b).build rules scope store = (.ok r, store')) :
    ∃ p q store₁, a.build rules scope store = (.ok p, store₁) ∧
      b.build rules scope store₁ = (.ok q, store') ∧ r = .choice [p, q] := by
  obtain ⟨ps, store₂, hps, h⟩ := exists_of_andThen_eq_ok h
  cases h
  obtain ⟨p, q, store₁, hp, hq, rfl⟩ := exists_of_buildAll_pair hps
  exact ⟨p, q, store₁, hp, hq, rfl⟩

namespace Parser

/-! ## The main theorem -/

/-- A choice within a choice and a sequence within a sequence may be written out: wherever they are
invoked and in whatever state, the same parts are invoked at the same positions in the same order. So
it is with tuples and lists of parts, whatever it is to invoke a part, and with `followedBy` and
`orElse`, which are those of two. -/
theorem flattening_agrees :
    (∀ (input : List Char) (xs ys zs : List Parser),
      WritesOut Eq (choice ys) (choice (xs ++ choice ys :: zs)) (choice (xs ++ ys ++ zs)) input ∧
      WritesOut (Step.Spliced xs.length ys.length) (sequence ys)
        (sequence (xs ++ sequence ys :: zs)) (sequence (xs ++ ys ++ zs)) input) ∧
    (∀ (invoke : Parser → Invoke) (ps : List Parser),
      runTuple invoke ps = runSequence invoke ps [] ∧ runEither invoke ps = runChoice invoke ps) ∧
    (∀ (input : List Char) (ps : List Parser),
      (sequence ps).invoke input = runTuple (fun p => p.invoke input) ps ∧
      (choice ps).invoke input = runEither (fun p => p.invoke input) ps) ∧
    ∀ (rules : Rules) (scope : Scope) (a b : Grammar) (store store' : Store) (r : Parser),
      ((a.followedBy b).build rules scope store = (.ok r, store') →
        ∃ p q store₁, a.build rules scope store = (.ok p, store₁) ∧
          b.build rules scope store₁ = (.ok q, store') ∧
          ∀ input, r.invoke input = runTuple (fun p => p.invoke input) [p, q]) ∧
      ((a.orElse b).build rules scope store = (.ok r, store') →
        ∃ p q store₁, a.build rules scope store = (.ok p, store₁) ∧
          b.build rules scope store₁ = (.ok q, store') ∧
          ∀ input, r.invoke input = runEither (fun p => p.invoke input) [p, q]) := by
  have hsequence : ∀ (input : List Char) (ps : List Parser),
      (sequence ps).invoke input = runTuple (fun p => p.invoke input) ps := by
    intro input ps
    funext position s
    rw [invoke_sequence, runTuple_eq]
  have hchoice : ∀ (input : List Char) (ps : List Parser),
      (choice ps).invoke input = runEither (fun p => p.invoke input) ps := by
    intro input ps
    funext position s
    rw [invoke_choice, runEither_eq]
  refine ⟨fun input xs ys zs => ⟨choice_writesOut xs ys zs input, sequence_writesOut xs ys zs input⟩,
    fun invoke ps => ⟨runTuple_eq invoke ps, runEither_eq invoke ps⟩,
    fun input ps => ⟨hsequence input ps, hchoice input ps⟩,
    fun rules scope a b store store' r => ⟨fun h => ?_, fun h => ?_⟩⟩
  · obtain ⟨p, q, store₁, hp, hq, rfl⟩ := Grammar.exists_of_build_followedBy h
    exact ⟨p, q, store₁, hp, hq, fun input => hsequence input [p, q]⟩
  · obtain ⟨p, q, store₁, hp, hq, rfl⟩ := Grammar.exists_of_build_orElse h
    exact ⟨p, q, store₁, hp, hq, fun input => hchoice input [p, q]⟩

/-- A sequence that fails at the second part of the inner one, and one that matches. -/
theorem flattening_agrees_letters :
    let nested := sequence ([literal "a"] ++ sequence [literal "b", literal "c"] :: [literal "d"])
    let flat := sequence ([literal "a"] ++ [literal "b", literal "c"] ++ [literal "d"])
    (∃ inner t, nested.Traces "abx".toList 0 Store.empty inner (.ok (.failure 2)) t ∧
      ∃ inner' step', flat.Traces "abx".toList 0 Store.empty inner' step' t ∧
        Step.Spliced 1 2 (.ok (.failure 2)) step' ∧
        Trace.Spliced (sequence [literal "b", literal "c"]) inner inner') ∧
    nested.invoke "abcd".toList 0 Store.empty =
      some (.ok (.success (.arr [.str "a", .arr [.str "b", .str "c"], .str "d"]) 4), Store.empty) ∧
    flat.invoke "abcd".toList 0 Store.empty =
      some (.ok (.success (.arr [.str "a", .str "b", .str "c", .str "d"]) 4), Store.empty) ∧
    ∃ p store, ((Grammar.literal "a").orElse (.literal "b")).build [] [] Store.empty =
        (.ok p, store) ∧
      ∃ q r store₁, (Grammar.literal "a").build [] [] Store.empty = (.ok q, store₁) ∧
        (Grammar.literal "b").build [] [] store₁ = (.ok r, store) ∧
        ∀ input, p.invoke input = runEither (fun p => p.invoke input) [q, r] := by
  intro nested flat
  have hwrites := (flattening_agrees.1 "abx".toList [literal "a"] [literal "b", literal "c"]
    [literal "d"]).2
  have hfails : nested.invoke "abx".toList 0 Store.empty = some (.ok (.failure 2), Store.empty) :=
    invoke_eq_some_iff.2 ⟨4, rfl⟩
  obtain ⟨inner, ht⟩ := invoke_iff_traces.1 hfails
  have hbuild : ((Grammar.literal "a").orElse (.literal "b")).build [] [] Store.empty =
    (.ok (.choice [literal "a", literal "b"]), Store.empty) := rfl
  exact ⟨⟨inner, _, ht, hwrites.traces _ _ _ _ _ ht⟩, invoke_eq_some_iff.2 ⟨4, rfl⟩,
    invoke_eq_some_iff.2 ⟨4, rfl⟩, _, _, hbuild,
    (flattening_agrees.2.2.2 [] [] _ _ _ _ _).2 hbuild⟩

end Parser

end Descent
