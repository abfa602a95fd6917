import Descent.Proofs.Trace.Basic
import Descent.Session

/-!
# Uses of parsers

All that readers and chains of assertions do with parsers is to invoke them, one after the other.
What else they do is about the tracker, or reports something (`Store.Plays`).
-/

namespace Descent

/-- A change that is not about parsers: to the tracker, or of what has been reported. -/
inductive Store.Aside : Store → Store → Prop
  | expect (s : Store) (position : Nat) (label : String) : Aside s (s.expect position label)
  | resetTracker (s : Store) : Aside s s.resetTracker
  | report (s : Store) {event : Event} : event ≠ .resolvingDeferred → Aside s (s.report event)

/-- Parsers that are offered are invoked one after the other, with `ts` as all that happens. -/
inductive Store.Plays (offered : Parser → Prop) : Store → List Trace → Store → Prop
  | refl (s : Store) : Plays offered s [] s
  | invoke {s t u : Store} {ts inner : List Trace} {input : List Char} {p : Parser}
      {position : Nat} {step : Step} : Plays offered s ts t → offered p →
      p.Traces input position t inner step u →
      Plays offered s (ts ++ [.call p position inner step u]) u
  | aside {s t u : Store} {ts : List Trace} : Plays offered s ts t → t.Aside u →
      Plays offered s ts u

/-- The trace is all that one invocation does. -/
def Trace.Invoked (x : Trace) : Prop :=
  ∃ (p : Parser) (input : List Char) (position : Nat) (before : Store) (inner : List Trace)
    (step : Step) (after : Store), x = .call p position inner step after ∧
      p.invoke input position before = some (step, after) ∧
      p.Traces input position before inner step after

namespace Store

variable {s t u : Store} {offered offered' : Parser → Prop} {ts us : List Trace}

theorem Aside.slots_eq (h : s.Aside t) : t.slots = s.slots := by cases h <;> rfl

theorem Aside.cells_eq (h : s.Aside t) : t.cells = s.cells := by cases h <;> rfl

theorem Aside.probes_eq (h : s.Aside t) : t.probes = s.probes := by cases h <;> rfl

theorem Aside.built_eq (h : s.Aside t) : t.built = s.built := by cases h <;> rfl

theorem Plays.trans (h : s.Plays offered ts t) (h' : t.Plays offered us u) :
    s.Plays offered (ts ++ us) u := by
  induction h' with
  | refl => rwa [List.append_nil]
  | invoke _ hp ht ih =>
    rw [← List.append_assoc]
    exact .invoke ih hp ht
  | aside _ ha ih => exact .aside ih ha

theorem Plays.mono (h : s.Plays offered ts t) (ho : ∀ p, offered p → offered' p) :
    s.Plays offered' ts t := by
  induction h with
  | refl => exact .refl _
  | invoke _ hp ht ih => exact .invoke ih (ho _ hp) ht
  | aside _ ha ih => exact .aside ih ha

theorem Plays.invoked (h : s.Plays offered ts t) : ∀ x ∈ ts, x.Invoked := by
  induction h with
  | refl => exact nofun
  | @invoke t u ts inner input p position step _ _ ht ih =>
    have hinvoked : (Trace.call p position inner step u).Invoked :=
      ⟨p, input, position, t, inner, step, u, rfl, Parser.invoke_iff_traces.2 ⟨inner, ht⟩, ht⟩
    exact List.forall_mem_append.2 ⟨ih, List.forall_mem_singleton.2 hinvoked⟩
  | aside _ _ ih => exact ih

end Store

/-! ## Acts -/

/-- The act is one use of what is offered. -/
def Enacts {α : Type} (offered : Parser → Prop) (act : Store → Option (α × Store)) : Prop :=
  ∀ s a t, act s = some (a, t) → ∃ ts, s.Plays offered ts t

section
variable {offered : Parser → Prop} {p : Parser}

/-- A change before the act that is not about parsers. -/
theorem Enacts.comp {α : Type} {act : Store → Option (α × Store)} (h : Enacts offered act)
    {change : Store → Store} (hc : ∀ s, change s = s ∨ s.Aside (change s)) :
    Enacts offered fun s => act (change s) := by
  intro s a t hact
  obtain ⟨ts, hts⟩ := h _ a t hact
  obtain heq | ha := hc s
  · exact ⟨ts, by rwa [heq] at hts⟩
  · exact ⟨_, (Store.Plays.aside (.refl s) ha).trans hts⟩

theorem Enacts.andThen {α β : Type} {act : Store → Reader.Answer α}
    {next : α → Store → Reader.Answer β} (h : Enacts offered act)
    (hn : ∀ a, Enacts offered (next a)) : Enacts offered fun s => Reader.andThen (act s) next := by
  intro s b u hact
  dsimp only at hact
  unfold Reader.andThen at hact
  split at hact
  · cases hact
  · rename_i error t ht
    cases hact
    exact h s _ u ht
  · rename_i a t ht
    obtain ⟨ts, hts⟩ := h s _ t ht
    obtain ⟨us, hus⟩ := hn a t b u hact
    exact ⟨ts ++ us, hts.trans hus⟩

variable (hp : offered p)
include hp

theorem enacts_invoke (input : List Char) (position : Nat) :
    Enacts offered (p.invoke input position) := by
  intro s step t h
  obtain ⟨inner, ht⟩ := Parser.invoke_iff_traces.1 h
  exact ⟨_, .invoke (.refl s) hp ht⟩

theorem enacts_parseAt (input : List Char) (position : Nat) :
    Enacts offered (Reader.parseAt p input position) := by
  intro s answer t h
  unfold Reader.parseAt at h
  dsimp only at h
  split at h
  · cases h
    exact ⟨[], .refl s⟩
  · split at h
    · cases h
      exact ⟨[], .refl s⟩
    · cases hi : p.invoke input position s with
      | none => rw [hi] at h; cases h
      | some a =>
        obtain ⟨step, u⟩ := a
        rw [hi] at h
        cases step <;> cases h <;> exact enacts_invoke hp input position s _ _ hi

theorem enacts_checkAll (checks : List Check) (a : Assertion) :
    Enacts offered (Assertion.checkAll p a checks) := by
  induction checks generalizing a with
  | nil =>
    intro s b t h
    cases h
    exact ⟨[], .refl s⟩
  | cons check checks ih =>
    intro s b u h
    cases check with
    | moveTo position =>
      rw [Assertion.checkAll] at h
      split at h
      · cases h
      · rename_i error t hi
        cases h
        exact enacts_invoke hp a.input position s _ u hi
      · rename_i o t hi
        obtain ⟨ts, hts⟩ := enacts_invoke hp a.input position s _ t hi
        obtain ⟨us, hus⟩ := ih _ t b u h
        exact ⟨ts ++ us, hts.trans hus⟩
    | _ =>
      simp only [Assertion.checkAll] at h
      split at h
      · cases h
        exact ⟨[], .refl s⟩
      · exact ih a s b u h

theorem enacts_assertion (input : List Char) (checks : List Check) :
    Enacts offered (Assertion.run p input checks) := by
  intro s b u h
  unfold Assertion.run at h
  split at h
  · cases h
  · rename_i error t hi
    cases h
    exact enacts_invoke hp input 0 s _ u hi
  · rename_i o t hi
    obtain ⟨ts, hts⟩ := enacts_invoke hp input 0 s _ t hi
    obtain ⟨us, hus⟩ := enacts_checkAll hp checks _ t b u h
    exact ⟨ts ++ us, hts.trans hus⟩

end

section
variable {offered : Parser → Prop} {reader : Reader} (hp : offered reader.parser)
include hp

theorem enacts_parsePrefix (input : List Char) : Enacts offered (reader.parsePrefix input) := by
  have hstart : Enacts offered fun s => Reader.parseAt reader.parser input 0
      (if reader.tracked then s.resetTracker else s) :=
    (enacts_parseAt hp input 0).comp fun s => by
      split
      · exact .inr (.resetTracker s)
      · exact .inl rfl
  refine hstart.andThen fun o s a t h => ?_
  split at h <;> cases h <;> exact ⟨[], .aside (.refl s) (.report s nofun)⟩

theorem enacts_parse (input : List Char) : Enacts offered (reader.parse input) := by
  refine (enacts_parsePrefix hp input).andThen fun a s b t h => ?_
  dsimp only at h
  split at h <;> cases h
  · exact ⟨[], .aside (.refl s) (.report s nofun)⟩
  · exact ⟨[], .refl s⟩

end

end Descent
