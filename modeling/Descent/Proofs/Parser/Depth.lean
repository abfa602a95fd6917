import Descent.Parser.Run

/-!
# Depth

More depth keeps every answer of `Parser.run` (`run_mono`), so that `Parser.invoke`, which raises
the depth until there is an answer, answers what any depth answers (`invoke_eq_some_iff`).
Combinators are handled once for all: each of them keeps the answers of a growing `invoke`.
-/

namespace Descent

/-- Every answer of the first result is one of the second. -/
def Result.Within (r r' : Result) : Prop := ∀ a, r = some a → r' = some a

/-- Every answer of the first way to invoke a parser is one of the second. -/
def Invoke.Within (f g : Invoke) : Prop :=
  ∀ position store, (f position store).Within (g position store)

namespace Result

theorem Within.refl (r : Result) : r.Within r := fun _ h => h

theorem Within.andThen {r r' : Result} {next next' : Outcome Value → Store → Result}
    (hr : r.Within r') (hn : ∀ o store, (next o store).Within (next' o store)) :
    (r.andThen next).Within (r'.andThen next') := by
  intro a h
  match r, hr with
  | none, _ => cases h
  | some (.error e, store), hr => rw [hr _ rfl]; exact h
  | some (.ok o, store), hr => rw [hr _ rfl]; exact hn o store a h

theorem Within.mapOutcome {r r' : Result} (f : Outcome Value → Outcome Value) (hr : r.Within r') :
    (r.mapOutcome f).Within (r'.mapOutcome f) :=
  hr.andThen fun _ _ => .refl _

end Result

namespace Parser

/-! ## Combinators -/

section
variable {invoke invoke' : Parser → Invoke} (hi : ∀ p, (invoke p).Within (invoke' p))
include hi

theorem runSequence_within (ps : List Parser) (done : List Value) :
    Invoke.Within (runSequence invoke ps done) (runSequence invoke' ps done) := by
  induction ps generalizing done with
  | nil => exact fun _ _ => .refl _
  | cons p ps ih =>
    intro position store
    refine (hi p position store).andThen fun o store => ?_
    cases o with
    | success v next => exact ih (v :: done) next store
    | failure next => exact .refl _
    | rejected v next => exact .refl _

theorem runChoice_within (ps : List Parser) :
    Invoke.Within (runChoice invoke ps) (runChoice invoke' ps) := by
  induction ps with
  | nil => exact fun _ _ => .refl _
  | cons p ps ih =>
    intro position store
    refine (hi p position store).andThen fun o store => ?_
    split
    · exact .refl _
    · exact ih position store

theorem runBody_within (slot : Nat) :
    Invoke.Within (runBody invoke slot) (runBody invoke' slot) := by
  intro position store
  unfold runBody
  split
  · exact .refl _
  · exact hi _ position store

end

theorem runMany_within {invoke invoke' : Invoke} (hi : invoke.Within invoke') {fuel fuel' : Nat}
    (hf : fuel ≤ fuel') (done : List Value) :
    Invoke.Within (runMany invoke fuel done) (runMany invoke' fuel' done) := by
  induction fuel generalizing fuel' done with
  | zero => exact fun _ _ _ h => nomatch h
  | succ fuel ih =>
    obtain ⟨fuel', rfl⟩ : ∃ n, fuel' = n + 1 := ⟨fuel' - 1, by omega⟩
    intro position store
    refine (hi position store).andThen fun o store => ?_
    cases o with
    | success v next =>
      dsimp only
      split
      · exact .refl _
      · exact ih (by omega) (v :: done) next store
    | failure next => exact .refl _
    | rejected v next => exact .refl _

/-! ## Invocation -/

theorem run_within (input : List Char) {fuel fuel' : Nat} (hf : fuel ≤ fuel') (p : Parser) :
    Invoke.Within (run input fuel p) (run input fuel' p) := by
  induction fuel generalizing fuel' p with
  | zero => exact fun _ _ _ h => nomatch h
  | succ fuel ih =>
    obtain ⟨fuel', rfl⟩ : ∃ n, fuel' = n + 1 := ⟨fuel' - 1, by omega⟩
    have hf : fuel ≤ fuel' := by omega
    intro position store
    cases p with
    | literal | charClass | pattern | custom => exact .refl _
    | sequence ps => exact runSequence_within (ih hf) ps [] position store
    | choice ps => exact runChoice_within (ih hf) ps position store
    | many body => exact runMany_within (ih hf body) hf [] position store
    | deferred cell => exact ih hf _ position _
    | handle slot => exact runBody_within (ih hf) slot position store
    | rule slot => exact runBody_within (ih hf) slot position store
    | optional body | transform f body | tryTransform f body | tag accepts body
    | guarded accepts body => exact (ih hf body position store).mapOutcome _
    | labelled label body => exact (ih hf body position store).andThen fun _ _ => .refl _

/-- More depth keeps every answer. -/
theorem run_mono {input : List Char} {fuel fuel' : Nat} {p : Parser} {position : Nat}
    {store : Store} {a : Step × Store} (h : run input fuel p position store = some a)
    (hf : fuel ≤ fuel') : run input fuel' p position store = some a :=
  run_within input hf p position store a h

theorem exists_run_of_deepen {input : List Char} {p : Parser} {position : Nat} {store : Store}
    {depth : Nat} {a : Step × Store} (h : deepen input p position store depth = some a) :
    ∃ fuel, run input fuel p position store = some a := by
  refine deepen.partial_correctness input p position store
    (fun _ a => ∃ fuel, run input fuel p position store = some a) ?_ depth a h
  intro deepen ih depth a h
  split at h
  · rename_i hr
    cases h
    exact ⟨depth, hr⟩
  · exact ih _ _ h

/-- Doubling the depth reaches any depth. -/
theorem deepen_of_run {input : List Char} {p : Parser} {position : Nat} {store : Store}
    {fuel depth : Nat} {a : Step × Store} (h : run input fuel p position store = some a)
    (hd : 0 < depth) : deepen input p position store depth = some a := by
  induction hn : fuel - depth using Nat.strongRecOn generalizing depth with
  | ind n ih =>
    rw [deepen]
    cases hr : run input depth p position store with
    | some b =>
      have hb := run_mono hr (Nat.le_max_left depth fuel)
      rw [run_mono h (Nat.le_max_right depth fuel)] at hb
      exact hb.symm
    | none =>
      have hlt : depth < fuel := by
        rcases Nat.lt_or_ge depth fuel with hlt | hge
        · exact hlt
        · rw [run_mono h hge] at hr; cases hr
      exact ih (fuel - 2 * depth) (by omega) (by omega) rfl

/-- A parser is invoked with as much depth as it takes. -/
theorem invoke_eq_some_iff {p : Parser} {input : List Char} {position : Nat} {store : Store}
    {a : Step × Store} :
    p.invoke input position store = some a ↔ ∃ fuel, run input fuel p position store = some a :=
  ⟨exists_run_of_deepen, fun ⟨_, h⟩ => deepen_of_run h (by simp [depthLimit])⟩

end Parser

end Descent
