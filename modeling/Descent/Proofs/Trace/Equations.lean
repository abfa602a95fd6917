import Descent.Proofs.Trace.Basic

/-!
# Invocations without a bound

More depth keeps every trace (`trace_mono`), so that there is one of all depths: `Parser.traced`
has a trace just where `Parser.invoke` has an answer. Both satisfy the equations that are expected of
them, with no depth in sight: a sequence threads the invocations of its parts, a choice tries them,
and a repetition is one iteration and the repetition from there on (`invoke_many`).
-/

namespace Descent

/-- The same result with another step. -/
def mapStep {α : Type} (f : Step → Step) (r : Option (Step × α)) : Option (Step × α) :=
  r.map fun a => (f a.1, a.2)

theorem mapStep_mapStep {α : Type} (f g : Step → Step) (r : Option (Step × α)) :
    mapStep f (mapStep g r) = mapStep (f ∘ g) r := by
  cases r <;> rfl

namespace Traced

/-- Every answer of the first result is one of the second. -/
def Within (r r' : Traced) : Prop := ∀ a, r = some a → r' = some a

/-- Every answer of the result is one of all depths from some depth on. -/
def Reached (r : Traced) (depths : Nat → Traced) : Prop :=
  ∀ a, r = some a → ∃ n, ∀ depth, n ≤ depth → depths depth = some a

variable {r r' : Traced} {next next' : Outcome Value → Store → Traced}

theorem Within.refl (r : Traced) : r.Within r := fun _ h => h

theorem Within.map {α : Type} {f : Step × Store × List Trace → α} (hr : r.Within r') {a : α}
    (h : r.map f = some a) : r'.map f = some a := by
  obtain ⟨b, hb, rfl⟩ := Option.map_eq_some_iff.1 h
  rw [hr b hb, Option.map_some]

theorem Within.after (ts : List Trace) (hr : r.Within r') : (r.after ts).Within (r'.after ts) :=
  fun _ => hr.map

theorem Within.andThen (hr : r.Within r') (hn : ∀ o s, (next o s).Within (next' o s)) :
    (r.andThen next).Within (r'.andThen next') := by
  intro a h
  match r, hr with
  | none, _ => cases h
  | some (.error error, s, ts), hr => rw [hr _ rfl]; exact h
  | some (.ok o, s, ts), hr => rw [hr _ rfl]; exact (hn o s).after ts a h

theorem Within.mapOutcome (f : Outcome Value → Outcome Value) (hr : r.Within r') :
    (r.mapOutcome f).Within (r'.mapOutcome f) :=
  hr.andThen fun _ _ => .refl _

theorem Reached.refl (r : Traced) : r.Reached fun _ => r := fun _ h => ⟨0, fun _ _ => h⟩

theorem Reached.andThen {depths : Nat → Traced} {nexts : Nat → Outcome Value → Store → Traced}
    (hr : r.Reached depths) (hn : ∀ o s, (next o s).Reached fun depth => nexts depth o s) :
    (r.andThen next).Reached fun depth => (depths depth).andThen (nexts depth) := by
  rintro ⟨step, s, us⟩ h
  obtain ⟨error, he, rfl⟩ | ⟨o, s₁, ts, ts', ho, hnext, rfl⟩ := exists_of_andThen h
  · obtain ⟨n, hd⟩ := hr _ he
    refine ⟨n, fun depth hle => ?_⟩
    show (depths depth).andThen (nexts depth) = _
    rw [hd depth hle]
    rfl
  · obtain ⟨n, hd⟩ := hr _ ho
    obtain ⟨n', hd'⟩ := hn o s₁ _ hnext
    refine ⟨max n n', fun depth hle => ?_⟩
    have hlater : nexts depth o s₁ = some (step, s, ts') := hd' depth (by omega)
    show (depths depth).andThen (nexts depth) = _
    rw [hd depth (by omega), Traced.andThen, hlater]
    rfl

end Traced

namespace Parser

/-! ## More depth -/

section
variable {invoke invoke' : Parser → Tracing}
  (hi : ∀ p position s, (invoke p position s).Within (invoke' p position s))
include hi

theorem traceSequence_within (ps : List Parser) (done : List Value) (position : Nat) (s : Store) :
    (traceSequence invoke ps done position s).Within (traceSequence invoke' ps done position s) := by
  induction ps generalizing done position s with
  | nil => exact .refl _
  | cons p ps ih =>
    refine (hi p position s).andThen fun o s => ?_
    cases o with
    | success v next => exact ih (v :: done) next s
    | failure next | rejected v next => exact .refl _

theorem traceChoice_within (ps : List Parser) (position : Nat) (s : Store) :
    (traceChoice invoke ps position s).Within (traceChoice invoke' ps position s) := by
  induction ps generalizing s with
  | nil => exact .refl _
  | cons p ps ih =>
    refine (hi p position s).andThen fun o s => ?_
    split
    · exact .refl _
    · exact ih s

theorem traceBody_within (slot position : Nat) (s : Store) :
    (traceBody invoke slot position s).Within (traceBody invoke' slot position s) := by
  unfold traceBody
  split
  · exact .refl _
  · exact hi _ position s

theorem traceMany_within (p : Parser) {fuel fuel' : Nat} (hf : fuel ≤ fuel') (done : List Value)
    (position : Nat) (s : Store) :
    (traceMany (invoke p) fuel done position s).Within
      (traceMany (invoke' p) fuel' done position s) := by
  induction fuel generalizing fuel' done position s with
  | zero => exact fun _ h => nomatch h
  | succ fuel ih =>
    obtain ⟨fuel', rfl⟩ : ∃ n, fuel' = n + 1 := ⟨fuel' - 1, by omega⟩
    refine (hi p position s).andThen fun o s => ?_
    cases o with
    | success v next =>
      dsimp only
      split
      · exact .refl _
      · exact ih (by omega) (v :: done) next s
    | failure next | rejected v next => exact .refl _

theorem inside_within (input : List Char) {fuel fuel' : Nat} (hf : fuel ≤ fuel') (position : Nat)
    (s : Store) (p : Parser) :
    (p.inside input fuel invoke position s).Within (p.inside input fuel' invoke' position s) := by
  cases p with
  | literal | charClass | pattern | custom => exact .refl _
  | sequence ps => exact traceSequence_within hi ps [] position s
  | choice ps => exact traceChoice_within hi ps position s
  | many body => exact traceMany_within hi body hf [] position s
  | deferred cell => exact (hi _ position _).after _
  | handle slot | rule slot => exact traceBody_within hi slot position s
  | optional body | transform f body | tryTransform f body | tag accepts body
  | guarded accepts body => exact (hi body position s).mapOutcome _
  | labelled label body => exact hi body position s

end

theorem trace_within (input : List Char) {fuel fuel' : Nat} (hf : fuel ≤ fuel') (p : Parser)
    (position : Nat) (s : Store) :
    (trace input fuel p position s).Within (trace input fuel' p position s) := by
  induction fuel generalizing fuel' p position s with
  | zero => exact fun _ h => nomatch h
  | succ fuel ih =>
    obtain ⟨fuel', rfl⟩ : ∃ n, fuel' = n + 1 := ⟨fuel' - 1, by omega⟩
    have hf : fuel ≤ fuel' := by omega
    exact fun _ => (inside_within (ih hf) input hf position s p).map

/-- More depth keeps every trace. -/
theorem trace_mono {input : List Char} {fuel fuel' : Nat} {p : Parser} {position : Nat} {s : Store}
    {a : Step × Store × List Trace} (h : trace input fuel p position s = some a)
    (hf : fuel ≤ fuel') : trace input fuel' p position s = some a :=
  trace_within input hf p position s a h

/-! ## All depths -/

section
open Classical

/-- Invokes a parser with as much depth as it takes, with all that happens. -/
noncomputable def traced (p : Parser) (input : List Char) : Tracing := fun position s =>
  if h : ∃ a fuel, trace input fuel p position s = some a then some h.choose else none

end

section
variable {p : Parser} {input : List Char} {position : Nat} {s : Store}

theorem traced_eq_some_iff {a : Step × Store × List Trace} :
    p.traced input position s = some a ↔ ∃ fuel, trace input fuel p position s = some a := by
  unfold traced
  split
  · rename_i h
    obtain ⟨n, hn⟩ := h.choose_spec
    constructor
    · intro ha
      exact ⟨n, by rwa [← ha]⟩
    · rintro ⟨fuel, hfuel⟩
      rw [← trace_mono hn (Nat.le_max_left n fuel), trace_mono hfuel (Nat.le_max_right n fuel)]
  · rename_i h
    constructor
    · intro ha
      cases ha
    · rintro ⟨fuel, hfuel⟩
      exact absurd ⟨a, fuel, hfuel⟩ h

theorem trace_within_traced (fuel : Nat) :
    (trace input fuel p position s).Within (p.traced input position s) :=
  fun _ h => traced_eq_some_iff.2 ⟨fuel, h⟩

theorem traced_reached :
    (p.traced input position s).Reached fun fuel => trace input fuel p position s := by
  intro a h
  obtain ⟨n, hn⟩ := traced_eq_some_iff.1 h
  exact ⟨n, fun depth hle => trace_mono hn hle⟩

/-- To forget what happens is to invoke the parser. -/
theorem forget_traced : (p.traced input position s).forget = p.invoke input position s := by
  ext ⟨step, t⟩
  rw [invoke_eq_some_iff, Traced.forget, Option.map_eq_some_iff]
  constructor
  · rintro ⟨a, ha, heq⟩
    obtain ⟨fuel, hfuel⟩ := traced_eq_some_iff.1 ha
    exact ⟨fuel, by rw [← forget_trace, hfuel, ← heq]; rfl⟩
  · rintro ⟨fuel, hfuel⟩
    rw [← forget_trace, Traced.forget, Option.map_eq_some_iff] at hfuel
    obtain ⟨a, ha, heq⟩ := hfuel
    exact ⟨a, traced_eq_some_iff.2 ⟨fuel, ha⟩, heq⟩

/-- The trace of an invocation is the one of all depths. -/
theorem traces_iff {inner : List Trace} {step : Step} {t : Store} :
    p.Traces input position s inner step t ↔
      p.traced input position s = some (step, t, [.call p position inner step t]) :=
  traced_eq_some_iff.symm

/-- What a parser does at every depth it does without a bound. -/
theorem traced_eq {r : Traced}
    (hw : ∀ fuel, (p.inside input fuel (trace input fuel) position s).Within r)
    (hr : r.Reached fun fuel => p.inside input fuel (trace input fuel) position s) :
    p.traced input position s = p.enclose position r := by
  ext a
  constructor
  · intro h
    obtain ⟨fuel, hfuel⟩ := traced_eq_some_iff.1 h
    cases fuel with
    | zero => cases hfuel
    | succ fuel => exact (hw fuel).map hfuel
  · intro h
    obtain ⟨b, hb, rfl⟩ := Option.map_eq_some_iff.1 h
    obtain ⟨n, hn⟩ := hr b hb
    have hinside : p.inside input n (trace input n) position s = some b := hn n (Nat.le_refl n)
    refine traced_eq_some_iff.2 ⟨n + 1, ?_⟩
    rw [trace, enclose, hinside, Option.map_some]

end

/-! ## Equations -/

section
variable {input : List Char} {position : Nat} {s : Store}

theorem traceSequence_reached (ps : List Parser) (done : List Value) (position : Nat) (s : Store) :
    (traceSequence (fun p => p.traced input) ps done position s).Reached
      fun fuel => traceSequence (trace input fuel) ps done position s := by
  induction ps generalizing done position s with
  | nil => exact .refl _
  | cons p ps ih =>
    refine traced_reached.andThen fun o s => ?_
    cases o with
    | success v next => exact ih (v :: done) next s
    | failure next | rejected v next => exact .refl _

theorem traceChoice_reached (ps : List Parser) (position : Nat) (s : Store) :
    (traceChoice (fun p => p.traced input) ps position s).Reached
      fun fuel => traceChoice (trace input fuel) ps position s := by
  induction ps generalizing s with
  | nil => exact .refl _
  | cons p ps ih =>
    refine traced_reached.andThen fun o s => ?_
    split
    · exact .refl _
    · exact ih s

/-- A sequence invokes its parts one after another. -/
theorem traced_sequence (ps : List Parser) :
    (sequence ps).traced input position s =
      (sequence ps).enclose position
        (traceSequence (fun p => p.traced input) ps [] position s) :=
  traced_eq (fun fuel => traceSequence_within (fun _ _ _ => trace_within_traced fuel) ps [] position s)
    (traceSequence_reached ps [] position s)

/-- A choice invokes its alternatives at one position. -/
theorem traced_choice (ps : List Parser) :
    (choice ps).traced input position s =
      (choice ps).enclose position (traceChoice (fun p => p.traced input) ps position s) :=
  traced_eq (fun fuel => traceChoice_within (fun _ _ _ => trace_within_traced fuel) ps position s)
    (traceChoice_reached ps position s)

theorem invoke_sequence (ps : List Parser) :
    (sequence ps).invoke input position s =
      runSequence (fun p => p.invoke input) ps [] position s := by
  rw [← forget_traced, traced_sequence, forget_enclose fun _ _ => rfl]
  exact forget_traceSequence (fun _ _ _ => forget_traced) ps [] position s

theorem invoke_choice (ps : List Parser) :
    (choice ps).invoke input position s =
      runChoice (fun p => p.invoke input) ps position s := by
  rw [← forget_traced, traced_choice, forget_enclose fun _ _ => rfl]
  exact forget_traceChoice (fun _ _ _ => forget_traced) ps position s

theorem invoke_optional (p : Parser) :
    (optional p).invoke input position s =
      (p.invoke input position s).mapOutcome (optionalOutcome position) := by
  ext a
  rw [invoke_eq_some_iff]
  constructor
  · rintro ⟨fuel, h⟩
    cases fuel with
    | zero => cases h
    | succ fuel =>
      have hw : (run input fuel p position s).Within (p.invoke input position s) :=
        fun _ hb => invoke_eq_some_iff.2 ⟨fuel, hb⟩
      exact hw.mapOutcome _ a h
  · intro h
    cases hp : p.invoke input position s with
    | none =>
      rw [hp] at h
      cases h
    | some b =>
      obtain ⟨fuel, hfuel⟩ := invoke_eq_some_iff.1 hp
      exact ⟨fuel + 1, by rw [run, hfuel, ← h, hp]⟩

end

/-! ## Repetitions -/

/-- The values so far stand in front of the others. -/
theorem runMany_eq_consAll (invoke : Invoke) (fuel : Nat) (done : List Value) (position : Nat)
    (s : Store) :
    runMany invoke fuel done position s =
      mapStep (Step.consAll done) (runMany invoke fuel [] position s) := by
  induction fuel generalizing done position s with
  | zero => rfl
  | succ fuel ih =>
    rw [runMany, runMany]
    rcases invoke position s with _ | ⟨error | ⟨v, next⟩ | ⟨next⟩ | ⟨v, next⟩, t⟩
    · rfl
    · simp [mapStep]
    · simp only [Result.andThen_ok]
      split
      · simp [mapStep]
      · rw [ih (v :: done), ih [v], mapStep_mapStep]
        rfl
    · simp [mapStep, Step.consAll_arr]
    · simp [mapStep, Step.consAll_arr]

/-- A repetition answers no failure. -/
theorem exists_of_runMany {invoke : Invoke} {fuel : Nat} {done : List Value} {position : Nat}
    {s t : Store} {o : Outcome Value}
    (h : runMany invoke fuel done position s = some (.ok o, t)) :
    ∃ vs next, o = .success (.arr vs) next := by
  induction fuel generalizing done position s with
  | zero => cases h
  | succ fuel ih =>
    rw [runMany] at h
    obtain ⟨error, -, he⟩ | ⟨o', s', -, hnext⟩ := Result.exists_of_andThen h
    · cases he
    · cases o' with
      | success v next =>
        dsimp only at hnext
        split at hnext
        · cases hnext
        · exact ih hnext
      | failure next | rejected v next =>
        cases hnext
        exact ⟨_, _, rfl⟩

section
variable {p : Parser} {input : List Char} {position : Nat} {s t : Store}

/-- Where a repetition does not raise an error, it matches. -/
theorem exists_of_invoke_many {o : Outcome Value}
    (h : (many p).invoke input position s = some (.ok o, t)) :
    ∃ vs next, o = .success (.arr vs) next := by
  obtain ⟨fuel, h⟩ := invoke_eq_some_iff.1 h
  cases fuel with
  | zero => cases h
  | succ fuel => exact exists_of_runMany h

/-- A repetition goes on as what it is made of does. -/
theorem invoke_many_of_runMany {fuel fuel' : Nat} {a : Step × Store}
    (h : runMany (run input fuel p) fuel' [] position s = some a) :
    (many p).invoke input position s = some a := by
  refine invoke_eq_some_iff.2 ⟨max fuel fuel' + 1, ?_⟩
  exact runMany_within (run_within input (Nat.le_max_left fuel fuel') p) (Nat.le_max_right ..) [] _ _
    _ h

/-- A repetition is one iteration, and the repetition from there on where it has advanced. -/
theorem invoke_many (p : Parser) (input : List Char) (position : Nat) (s : Store) :
    (many p).invoke input position s =
      (p.invoke input position s).andThen fun o t =>
        match o with
        | .success v next =>
          if next = position then
            some (.error (.zeroWidthRepetition position), t.report (.repetitionStalled position))
          else mapStep (Step.cons v) ((many p).invoke input next t)
        | _ => some (.ok (.success (.arr []) position), t) := by
  ext a
  constructor
  · intro h
    obtain ⟨fuel, hrun⟩ := invoke_eq_some_iff.1 h
    -- the repetition and its first iteration take one unit of fuel each
    obtain _ | _ | fuel := fuel
    · cases hrun
    · cases hrun
    rw [run, runMany] at hrun
    refine Result.Within.andThen (fun b hb => invoke_eq_some_iff.2 ⟨fuel + 1, hb⟩) ?_ a hrun
    intro o t
    cases o with
    | success v next =>
      dsimp only
      split
      · exact .refl _
      · intro b hb
        rw [runMany_eq_consAll, mapStep, Option.map_eq_some_iff] at hb
        obtain ⟨c, hc, rfl⟩ := hb
        rw [invoke_many_of_runMany hc]
        rfl
    | failure next | rejected v next => exact .refl _
  · intro h
    obtain ⟨error, he, heq⟩ | ⟨o, t, ho, hnext⟩ := Result.exists_of_andThen h
    · obtain ⟨fuel, hrun⟩ := invoke_eq_some_iff.1 he
      have hmany : runMany (run input fuel p) 1 [] position s = some a := by
        rw [runMany, Result.andThen_eq_of_error hrun, ← heq]
      exact invoke_many_of_runMany hmany
    · obtain ⟨fuel, hrun⟩ := invoke_eq_some_iff.1 ho
      -- the iteration and the rest may take different amounts of fuel
      suffices hmany : ∃ n fuel', runMany (run input n p) (fuel' + 1) [] position s = some a by
        obtain ⟨n, fuel', hmany⟩ := hmany
        exact invoke_many_of_runMany hmany
      cases o with
      | failure next | rejected v next =>
        exact ⟨fuel, 0, by rw [runMany, Result.andThen_eq_of_ok hrun]; exact hnext⟩
      | success v next =>
        dsimp only at hnext
        split at hnext
        · rename_i heq
          refine ⟨fuel, 0, ?_⟩
          rw [runMany, Result.andThen_eq_of_ok hrun]
          dsimp only
          rw [if_pos heq, hnext]
        · rename_i hne
          obtain ⟨b, hb, rfl⟩ := Option.map_eq_some_iff.1 hnext
          obtain ⟨_ | fuel', hrun'⟩ := invoke_eq_some_iff.1 hb
          · cases hrun'
          have hfirst := run_mono hrun (Nat.le_max_left fuel fuel')
          have hrest := runMany_within (run_within input (Nat.le_max_right fuel fuel') p)
            (Nat.le_refl fuel') [] _ _ _ hrun'
          refine ⟨max fuel fuel', fuel', ?_⟩
          rw [runMany, Result.andThen_eq_of_ok hfirst]
          dsimp only
          rw [if_neg hne, runMany_eq_consAll, hrest]
          rfl

/-! ### The four ways in which an iteration ends -/

theorem invoke_many_next {v : Value} {next : Nat}
    (h : p.invoke input position s = some (.ok (.success v next), t)) (hn : next ≠ position) :
    (many p).invoke input position s = mapStep (Step.cons v) ((many p).invoke input next t) := by
  rw [invoke_many, h, Result.andThen_ok]
  exact if_neg hn

theorem invoke_many_stop {o : Outcome Value} (h : p.invoke input position s = some (.ok o, t))
    (ho : o.matched = false) :
    (many p).invoke input position s = some (.ok (.success (.arr []) position), t) := by
  rw [invoke_many, h, Result.andThen_ok]
  cases o with
  | success v next => cases ho
  | failure next | rejected v next => rfl

theorem invoke_many_stall {v : Value}
    (h : p.invoke input position s = some (.ok (.success v position), t)) :
    (many p).invoke input position s =
      some (.error (.zeroWidthRepetition position), t.report (.repetitionStalled position)) := by
  rw [invoke_many, h, Result.andThen_ok]
  exact if_pos rfl

theorem invoke_many_error {error : GrammarError}
    (h : p.invoke input position s = some (.error error, t)) :
    (many p).invoke input position s = some (.error error, t) := by
  rw [invoke_many, h, Result.andThen_error]

end

end Parser

end Descent
