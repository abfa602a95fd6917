import Descent.Proofs.Meaning.Follow
import Descent.Proofs.Meaning.Unique

/-!
# Parsing depends on the suffix only

A grammar without custom parts does not see what stands before the position at which it is invoked
(`Session.invoke_append`): in front of a longer input it answers the same, and records the same,
with all positions shifted by the length of what was put in front. This holds of every position,
those that are no boundaries included.
-/

namespace Descent

/-! ## Shifted positions -/

/-- The outcome with its position shifted. -/
def Outcome.shift (n : Nat) : Outcome Value → Outcome Value
  | .success value next => .success value (n + next)
  | .failure next => .failure (n + next)
  | .rejected value next => .rejected value (n + next)

/-- The step with the position of the outcome, or of a repetition that stalled, shifted. -/
def Step.shift (n : Nat) : Step → Step
  | .ok o => .ok (o.shift n)
  | .error (.zeroWidthRepetition position) => .error (.zeroWidthRepetition (n + position))
  | .error error => .error error

/-- The failure with its position shifted. -/
def Failure.shift (n : Nat) (failure : Failure) : Failure := ⟨n + failure.position, failure.label⟩

/-- A position, and where it is after `n` bytes more. -/
def Ahead (n position position' : Nat) : Prop := position' = n + position

theorem ahead_biUnique (n : Nat) : Relator.BiUnique (Ahead n) :=
  ⟨fun _ _ _ h h' => Nat.add_left_cancel (h.symm.trans h'), fun _ _ _ h h' => h.trans h'.symm⟩

section
variable {n : Nat}

theorem Step.moved_shift (step : Step) : step.Moved (Ahead n) (step.shift n) := by
  match step with
  | .ok (.success v next) => exact .ok (.success rfl)
  | .ok (.failure next) => exact .ok (.failure rfl)
  | .ok (.rejected v next) => exact .ok (.rejected rfl)
  | .error (.zeroWidthRepetition position) => exact .stalled rfl
  | .error (.invalidPattern _) | .error .undefinedRule | .error .detachedRule => exact .error nofun

theorem Step.Moved.eq_shift {step step' : Step} (h : step.Moved (Ahead n) step') :
    step' = step.shift n := by
  cases h with
  | stalled hp => rw [hp]; rfl
  | @error e he =>
    cases e with
    | zeroWidthRepetition p => exact absurd rfl (he p)
    | invalidPattern _ | undefinedRule | detachedRule => rfl
  | ok ho => cases ho with | success hn | failure hn | rejected hn => rw [hn]; rfl

theorem map_shift_eq {failures failures' : List Failure}
    (h : List.Forall₂ (Failure.Moved (Ahead n)) failures failures') :
    failures' = failures.map (Failure.shift n) := by
  induction h with
  | nil => rfl
  | @cons f f' _ _ hf _ ih =>
    have hf' : f' = f.shift n := by
      obtain ⟨p, l⟩ := f
      obtain ⟨p', l'⟩ := f'
      obtain ⟨rfl, rfl⟩ : p' = n + p ∧ l = l' := ⟨hf.position, hf.label⟩
      rfl
    rw [List.map_cons, ih, hf']

end

/-! ## Leaves -/

section
variable (a b : List Char) (position : Nat)

theorem Parser.matchLiteral_append (text : String) :
    matchLiteral text (a ++ b) (Text.byteLength a + position) =
      (matchLiteral text b position).shift (Text.byteLength a) := by
  unfold matchLiteral
  rw [Text.suffixAt?_append]
  cases Text.suffixAt? b position with
  | none => rfl
  | some rest =>
    dsimp only
    split
    · rw [Nat.add_assoc]; rfl
    · rfl

theorem Parser.matchCharClass_append (set : String) (negate : Bool) :
    matchCharClass set negate (a ++ b) (Text.byteLength a + position) =
      (matchCharClass set negate b position).shift (Text.byteLength a) := by
  unfold matchCharClass
  rw [Text.suffixAt?_append]
  match Text.suffixAt? b position with
  | none | some [] => rfl
  | some (c :: rest) =>
    dsimp only
    split
    · rw [Nat.add_assoc]; rfl
    · rfl

theorem Parser.matchPattern_append (p : Pattern) :
    matchPattern p (a ++ b) (Text.byteLength a + position) =
      (matchPattern p b position).shift (Text.byteLength a) := by
  unfold matchPattern
  rw [Text.suffixAt?_append]
  cases (Text.suffixAt? b position).bind p.match? with
  | none => rfl
  | some text => dsimp only; rw [Nat.add_assoc]; rfl

end

section
variable {a b : List Char} {position : Nat}

/-- A leaf recognizes behind `a` what it recognizes without, and nothing else. -/
theorem recognizes_append_iff {g : Grammar} {step' : Step} (hg : g.standard = true) :
    Recognizes (a ++ b) (Text.byteLength a + position) g step' ↔
      ∃ step, Recognizes b position g step ∧ step' = step.shift (Text.byteLength a) := by
  cases g with
  | literal text =>
    simp only [recognizes_literal_iff, exists_eq_left, Parser.matchLiteral_append]
    rfl
  | charClass set negate =>
    simp only [recognizes_charClass_iff, exists_eq_left, Parser.matchCharClass_append]
    rfl
  | pattern expression ignoreCase =>
    have key : ∀ p, Pattern.compile? expression ignoreCase = some p →
        (Recognizes (a ++ b) (Text.byteLength a + position) (.pattern expression ignoreCase) step' ↔
          ∃ step, Recognizes b position (.pattern expression ignoreCase) step ∧
            step' = step.shift (Text.byteLength a)) := by
      intro p hp
      simp only [recognizes_pattern_iff hp, exists_eq_left, Parser.matchPattern_append]
      rfl
    constructor
    · intro h
      obtain ⟨p, hp⟩ := h.exists_pattern
      exact (key p hp).1 h
    · rintro ⟨step, h, hs⟩
      obtain ⟨p, hp⟩ := h.exists_pattern
      exact (key p hp).2 ⟨step, h, hs⟩
  | custom answer => cases hg
  | _ => exact ⟨fun h => (nomatch h), fun ⟨_, h, _⟩ => (nomatch h)⟩

/-! ## Derivations -/

variable {rules : Rules}

/-- A definition without custom parts follows itself where the leaves do. -/
theorem follows_self {input input' : List Char} {At : Nat → Nat → Prop} (hrules : rules.Standard)
    (hpositions : Relator.BiUnique At)
    (hrecognizes : ∀ (g : Grammar) (position position' : Nat) (step : Step), g.standard = true →
      At position position' → Recognizes input position g step →
      ∃ step', Recognizes input' position' g step' ∧ step.Moved At step') :
    Follows rules rules input input' At fun c c' => c = c' ∧ c.Standard where
  positions := hpositions
  recognizes := fun ⟨_, hc⟩ hp h => hrecognizes _ _ _ _ hc.grammar hp h
  combinator := fun ⟨heq, _⟩ _ => heq ▸ rfl
  part := fun ⟨heq, hc⟩ _ hg => heq ▸ ⟨rfl, hc.calls hrules (.part hg)⟩
  means := fun ⟨heq, hc⟩ hm => heq ▸ ⟨_, .single hm, rfl, hc.means hrules hm⟩
  dangles := fun ⟨heq, _⟩ hd => heq ▸ hd

/-- What is derived at a position is derived behind `a`, shifted, and nothing else is. -/
theorem derives_append_iff (hrules : rules.Standard) {c : Closure} (hc : c.Standard)
    {step' : Step} {failures' : List Failure} :
    Derives rules (a ++ b) (.whole c) (Text.byteLength a + position) step' failures' ↔
      ∃ step failures, Derives rules b (.whole c) position step failures ∧
        step' = step.shift (Text.byteLength a) ∧
        failures' = failures.map (Failure.shift (Text.byteLength a)) := by
  have hpositions := ahead_biUnique (Text.byteLength a)
  constructor
  · intro h
    have hF : Follows rules rules (a ++ b) b (flip (Ahead (Text.byteLength a))) _ :=
      follows_self hrules
        ⟨fun _ _ _ h h' => hpositions.2 h h', fun _ _ _ h h' => hpositions.1 h h'⟩
        fun g q p step₁ hg hp hr => by
          obtain rfl : q = Text.byteLength a + p := hp
          obtain ⟨step, hr', rfl⟩ := (recognizes_append_iff hg).1 hr
          exact ⟨step, hr', step.moved_shift.flip⟩
    obtain ⟨step, failures, hd, hs, hf⟩ := h.follow hF (.whole ⟨rfl, hc⟩) rfl
    exact ⟨step, failures, hd, hs.flip.eq_shift, map_shift_eq (hf.flip.imp fun _ _ h => h.flip)⟩
  · rintro ⟨step, failures, h, rfl, rfl⟩
    have hF : Follows rules rules b (a ++ b) (Ahead (Text.byteLength a)) _ :=
      follows_self hrules hpositions fun g p q step₁ hg hp hr => by
        obtain rfl : q = Text.byteLength a + p := hp
        exact ⟨_, (recognizes_append_iff hg).2 ⟨step₁, hr, rfl⟩, step₁.moved_shift⟩
    obtain ⟨step', failures', hd, hs, hf⟩ := h.follow hF (.whole ⟨rfl, hc⟩) rfl
    rwa [← hs.eq_shift, ← map_shift_eq hf]

end

/-! ## Sessions -/

namespace Session

/-- What stands before a position does not matter. However two sessions of a grammar without custom
parts have been used, invoking the one on `b` comes to an end just if invoking the other behind `a`
does, and then the answer and the records differ by the length of `a` in all positions only. -/
theorem invoke_append {rules : Rules} {grammar : Grammar} {options : ReaderOptions}
    {tracked : Bool} {s₀ s t : Session} {store : Store} (hrules : rules.Standard)
    (hgrammar : grammar.standard = true)
    (hstart : start rules grammar options tracked = (.ok s₀, store)) (hs : Reaches s₀ s)
    (ht : Reaches s₀ t) (a b : List Char) (position : Nat) :
    (∀ step s', s.invoke b position = some (step, s') →
      ∃ failures t',
        t.invoke (a ++ b) (Text.byteLength a + position) =
          some (step.shift (Text.byteLength a), t') ∧
        Derives rules b (.whole (grammar.closed rules)) position step failures ∧
        s'.store.tracker = s.store.tracker.recordAll failures ∧
        Derives rules (a ++ b) (.whole (grammar.closed rules)) (Text.byteLength a + position)
          (step.shift (Text.byteLength a)) (failures.map (Failure.shift (Text.byteLength a))) ∧
        t'.store.tracker =
          t.store.tracker.recordAll (failures.map (Failure.shift (Text.byteLength a)))) ∧
    ∀ step' t', t.invoke (a ++ b) (Text.byteLength a + position) = some (step', t') →
      ∃ step s', s.invoke b position = some (step, s') ∧
        step' = step.shift (Text.byteLength a) := by
  have hc : (grammar.closed rules).Standard := .mk hgrammar (List.forall_mem_nil _)
  have hs := (sound_start hstart).reaches hs
  have ht := (sound_start hstart).reaches ht
  constructor
  · intro step s' h
    obtain ⟨failures, hd, htr⟩ := hs.exists_derives h
    have hd' := (derives_append_iff (a := a) hrules hc).2 ⟨step, failures, hd, rfl, rfl⟩
    obtain ⟨t', h', htr'⟩ := ht.exists_invoke hd'
    exact ⟨failures, t', h', hd, htr, hd', htr'⟩
  · intro step' t' h
    obtain ⟨failures', hd', -⟩ := ht.exists_derives h
    obtain ⟨step, failures, hd, hstep, -⟩ := (derives_append_iff hrules hc).1 hd'
    obtain ⟨s', h', -⟩ := hs.exists_invoke hd
    exact ⟨step, s', h', hstep⟩

/-- The letter in its parentheses alone, and behind three bytes in a session that has been used. -/
theorem invoke_append_nested :
    ∃ s t step s' failures t', nested.standard = true ∧
      (start [] nested {} true).1 = .ok s ∧ Reaches s t ∧
      s.invoke "(x)".toList 0 = some (step, s') ∧
      t.invoke ("(é".toList ++ "(x)".toList) (Text.byteLength "(é".toList + 0) =
        some (step.shift (Text.byteLength "(é".toList), t') ∧
      s'.store.tracker = s.store.tracker.recordAll failures ∧
      t'.store.tracker =
        t.store.tracker.recordAll (failures.map (Failure.shift (Text.byteLength "(é".toList))) := by
  let built := nested.build [] [] Store.empty
  let s := settle ⟨some { parser := .rule 0, tracked := true }, built.2⟩ built.2
  have hs : s.invoke "(x)".toList 0 = some (_, _) := @invoke_of_run s _ _ _ 10 _ _ rfl rfl
  have ht : Reaches s _ := .step .refl (.invoke hs)
  have hstart : start [] nested {} true = (.ok s, _) := rfl
  have hrules : Rules.Standard [] := List.forall_mem_nil _
  obtain ⟨failures, t', h, -, htr, -, htr'⟩ :=
    (invoke_append hrules rfl hstart .refl ht "(é".toList "(x)".toList 0).1 _ _ hs
  exact ⟨s, _, _, _, failures, t', rfl, rfl, ht, hs, h, htr, htr'⟩

end Session

end Descent
