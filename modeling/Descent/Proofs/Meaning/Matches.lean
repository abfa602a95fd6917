import Descent.Proofs.Meaning.Invert

/-!
# Matches and failures

Where only matches matter, a derivation comes down to `Matches` and `Fails`, with one rule for each
kind of definition. Neither keeps the labels that are recorded, nor what a failure reports.
-/

namespace Descent

/-- The definition matches with the value, up to `next`. -/
def Matches (rules : Rules) (input : List Char) (c : Closure) (position : Nat) (v : Value)
    (next : Nat) : Prop :=
  ∃ failures, Derives rules input (.whole c) position (.ok (.success v next)) failures

/-- The definition does not match. -/
def Fails (rules : Rules) (input : List Char) (c : Closure) (position : Nat) : Prop :=
  ∃ o failures, Derives rules input (.whole c) position (.ok o) failures ∧ o.matched = false

/-- The definitions match one after another, with these values. -/
inductive Threads (rules : Rules) (input : List Char) :
    List Closure → Nat → List Value → Nat → Prop
  | nil {position : Nat} : Threads rules input [] position [] position
  | cons {c : Closure} {cs : List Closure} {position next last : Nat} {v : Value}
      {vs : List Value} : Matches rules input c position v next →
      Threads rules input cs next vs last → Threads rules input (c :: cs) position (v :: vs) last

/-- One of the definitions matches, and all before it fail. -/
inductive Chooses (rules : Rules) (input : List Char) :
    List Closure → Nat → Value → Nat → Prop
  | here {c : Closure} {cs : List Closure} {position next : Nat} {v : Value} :
      Matches rules input c position v next → Chooses rules input (c :: cs) position v next
  | there {c : Closure} {cs : List Closure} {position next : Nat} {v : Value} :
      Fails rules input c position → Chooses rules input cs position v next →
      Chooses rules input (c :: cs) position v next

/-- The definition matches again and again with these values, until it fails. -/
inductive Iterates (rules : Rules) (input : List Char) (c : Closure) :
    Nat → List Value → Nat → Prop
  | stop {position : Nat} : Fails rules input c position →
      Iterates rules input c position [] position
  | next {position next last : Nat} {v : Value} {vs : List Value} :
      Matches rules input c position v next → next ≠ position →
      Iterates rules input c next vs last → Iterates rules input c position (v :: vs) last

section
variable {rules : Rules} {input : List Char} {position next : Nat} {v : Value} {d : Nat}
  {ρ : List (String × Closure)}

/-! ## Names and leaves -/

theorem matches_means_iff {c c' : Closure} (hm : c.Means rules c') :
    Matches rules input c position v next ↔ Matches rules input c' position v next :=
  exists_congr fun _ => derives_means_iff hm

theorem matches_leaf_iff {c : Closure} (hl : c.grammar.Leaf) :
    Matches rules input c position v next ↔
      Recognizes input position c.grammar (.ok (.success v next)) := by
  simp only [Matches, derives_leaf_iff hl]
  exact ⟨fun ⟨_, h, _⟩ => h, fun h => ⟨[], h, rfl⟩⟩

theorem fails_of_recognizes {c : Closure} {o : Outcome Value}
    (h : Recognizes input position c.grammar (.ok o)) (ho : o.matched = false) :
    Fails rules input c position :=
  ⟨o, [], .recognizes h, ho⟩

theorem matches_literal_iff {text : String} :
    Matches rules input ⟨.literal text, d, ρ⟩ position v next ↔
      ∃ rest, Text.At input position (text.toList ++ rest) ∧ v = .str text ∧
        next = position + Text.byteLength text.toList := by
  refine (matches_leaf_iff (c := ⟨.literal text, d, ρ⟩) trivial).trans ?_
  constructor
  · rintro (⟨hat⟩ | _)
    exact ⟨_, hat, rfl, rfl⟩
  · rintro ⟨rest, hat, rfl, rfl⟩
    exact .literal hat

theorem matches_charClass_iff {set : String} :
    Matches rules input ⟨.charClass set false, d, ρ⟩ position v next ↔
      ∃ c rest, Text.At input position (c :: rest) ∧ c ∈ set.toList ∧ v = .ofChars [c] ∧
        next = position + c.utf8Size := by
  refine (matches_leaf_iff (c := ⟨.charClass set false, d, ρ⟩) trivial).trans ?_
  constructor
  · intro h
    cases h with
    | @charClass _ _ c rest hat hc => exact ⟨c, rest, hat, hc.2 rfl, rfl, rfl⟩
  · rintro ⟨c, rest, hat, hc, rfl, rfl⟩
    exact .charClass hat ⟨fun _ => rfl, fun _ => hc⟩

theorem fails_charClass {set : String} {rest : List Char} (hat : Text.At input position rest)
    (hc : ∀ c ∈ rest.head?, c ∉ set.toList) :
    Fails rules input ⟨.charClass set false, d, ρ⟩ position := by
  refine fails_of_recognizes (.charClass_fails fun c rest' hat' h => ?_) rfl
  rw [hat.unique hat'] at hc
  exact hc c rfl (h.2 rfl)

theorem matches_pattern_iff {expression : String} {ignoreCase : Bool} {p : Pattern}
    (hp : Pattern.compile? expression ignoreCase = some p) :
    Matches rules input ⟨.pattern expression ignoreCase, d, ρ⟩ position v next ↔
      ∃ text rest, Text.At input position (text ++ rest) ∧
        p.match? (text ++ rest) = some text ∧ v = .ofChars text ∧
        next = position + Text.byteLength text := by
  refine (matches_leaf_iff (c := ⟨.pattern expression ignoreCase, d, ρ⟩) trivial).trans ?_
  constructor
  · intro h
    cases h with
    | @pattern _ _ q text rest hq hat hm =>
      obtain rfl := Option.some.inj (hp.symm.trans hq)
      exact ⟨text, rest, hat, hm, rfl, rfl⟩
  · rintro ⟨text, rest, hat, hm, rfl, rfl⟩
    exact .pattern hp hat hm

theorem fails_pattern {expression : String} {ignoreCase : Bool} {p : Pattern}
    {rest : List Char} (hp : Pattern.compile? expression ignoreCase = some p)
    (hat : Text.At input position rest) (hm : p.match? rest = none) :
    Fails rules input ⟨.pattern expression ignoreCase, d, ρ⟩ position := by
  refine fails_of_recognizes (.pattern_fails hp fun rest' hat' => ?_) rfl
  rw [← hat.unique hat', hm]

/-! ## Shapes -/

theorem matches_shape_iff {c : Closure} {g : Grammar}
    (hs : ∀ o, ∃ o', Reshapes position c.grammar g o o') :
    Matches rules input c position v next ↔
      ∃ o, Reshapes position c.grammar g o (.success v next) ∧
        ∃ failures, Derives rules input (.whole (c.inner g)) position (.ok o) failures := by
  simp only [Matches, derives_shape_iff hs]
  exact ⟨fun ⟨failures, o, hr, hd⟩ => ⟨o, hr, failures, hd⟩,
    fun ⟨o, hr, failures, hd⟩ => ⟨failures, o, hr, hd⟩⟩

theorem matches_transform_iff {f : Value → Value} {g : Grammar} :
    Matches rules input ⟨.transform f g, d, ρ⟩ position v next ↔
      ∃ w, Matches rules input ⟨g, d, ρ⟩ position w next ∧ v = f w := by
  refine (matches_shape_iff (c := ⟨.transform f g, d, ρ⟩)
    fun _ => ⟨_, reshapes_transform_iff.2 rfl⟩).trans ?_
  constructor
  · rintro ⟨o, hr, failures, hd⟩
    cases hr with
    | transform_match => exact ⟨_, ⟨failures, hd⟩, rfl⟩
  · rintro ⟨w, ⟨failures, hd⟩, rfl⟩
    exact ⟨_, .transform_match, failures, hd⟩

theorem fails_transform {f : Value → Value} {g : Grammar}
    (h : Fails rules input ⟨g, d, ρ⟩ position) :
    Fails rules input ⟨.transform f g, d, ρ⟩ position := by
  obtain ⟨o, failures, hd, ho⟩ := h
  exact ⟨_, failures, .reshapes (.transform_fails ho) hd, rfl⟩

theorem matches_tryTransform_iff {f : Value → Option Value} {g : Grammar} :
    Matches rules input ⟨.tryTransform f g, d, ρ⟩ position v next ↔
      ∃ w, Matches rules input ⟨g, d, ρ⟩ position w next ∧ f w = some v := by
  refine (matches_shape_iff (c := ⟨.tryTransform f g, d, ρ⟩)
    fun _ => ⟨_, reshapes_tryTransform_iff.2 rfl⟩).trans ?_
  constructor
  · rintro ⟨o, hr, failures, hd⟩
    cases hr with
    | tryTransform_match hv => exact ⟨_, ⟨failures, hd⟩, hv⟩
  · rintro ⟨w, ⟨failures, hd⟩, hv⟩
    exact ⟨_, .tryTransform_match hv, failures, hd⟩

theorem fails_tryTransform {f : Value → Option Value} {g : Grammar}
    (h : Fails rules input ⟨g, d, ρ⟩ position) :
    Fails rules input ⟨.tryTransform f g, d, ρ⟩ position := by
  obtain ⟨o, failures, hd, ho⟩ := h
  exact ⟨_, failures, .reshapes (.tryTransform_fails ho) hd, rfl⟩

theorem matches_labelled_iff {label : String} {g : Grammar} :
    Matches rules input ⟨.labelled label g, d, ρ⟩ position v next ↔
      Matches rules input ⟨g, d, ρ⟩ position v next := by
  constructor
  · rintro ⟨_, hd⟩
    obtain ⟨failures, hd, -⟩ := (derives_labelled_iff rfl).1 hd
    exact ⟨failures, hd⟩
  · rintro ⟨failures, hd⟩
    exact ⟨_, (derives_labelled_iff rfl).2 ⟨failures, hd, rfl⟩⟩

theorem fails_labelled {label : String} {g : Grammar}
    (h : Fails rules input ⟨g, d, ρ⟩ position) :
    Fails rules input ⟨.labelled label g, d, ρ⟩ position := by
  obtain ⟨o, failures, hd, ho⟩ := h
  exact ⟨o, _, (derives_labelled_iff rfl).2 ⟨failures, hd, rfl⟩, ho⟩

/-! ## Combinators -/

theorem Step.exists_of_cons_eq {w : Value} {step : Step}
    (h : step.cons w = .ok (.success v next)) :
    ∃ u, step = .ok (.success u next) ∧ ∀ vs, u = .arr vs → v = .arr (w :: vs) := by
  unfold Step.cons at h
  split at h
  · rename_i vs last
    cases h
    exact ⟨_, rfl, fun us hu => by cases hu; rfl⟩
  · rename_i hne
    subst h
    exact ⟨v, rfl, fun us hu => absurd (by rw [hu]) (hne us next)⟩

theorem threads_of_derives {cs : List Closure} {failures : List Failure}
    (h : Derives rules input (.parts cs) position (.ok (.success v next)) failures) :
    ∃ vs, v = .arr vs ∧ Threads rules input cs position vs next := by
  induction cs generalizing position v failures with
  | nil =>
    cases h
    exact ⟨[], rfl, .nil⟩
  | cons c cs ih =>
    generalize hs : (Except.ok (.success v next) : Step) = step at h
    cases h with
    | parts_cons hd hd' =>
      obtain ⟨u, rfl, hu⟩ := Step.exists_of_cons_eq hs.symm
      obtain ⟨vs, rfl, hvs⟩ := ih hd'
      exact ⟨_, hu vs rfl, .cons ⟨_, hd⟩ hvs⟩
    | parts_fails | parts_error => cases hs

theorem Threads.exists_derives {cs : List Closure} {vs : List Value}
    (h : Threads rules input cs position vs next) :
    ∃ failures,
      Derives rules input (.parts cs) position (.ok (.success (.arr vs) next)) failures := by
  induction h with
  | nil => exact ⟨_, .parts_nil⟩
  | cons hm _ ih =>
    obtain ⟨failures, hd⟩ := hm
    obtain ⟨failures', hd'⟩ := ih
    exact ⟨_, .parts_cons hd hd'⟩

theorem matches_sequence_iff {gs : List Grammar} :
    Matches rules input ⟨.sequence gs, d, ρ⟩ position v next ↔
      ∃ vs, v = .arr vs ∧
        Threads rules input (gs.map (Closure.mk · d ρ)) position vs next := by
  constructor
  · rintro ⟨_, hd⟩
    exact threads_of_derives ((derives_sequence_iff rfl).1 hd)
  · rintro ⟨vs, rfl, h⟩
    obtain ⟨failures, hd⟩ := h.exists_derives
    exact ⟨failures, .sequence rfl hd⟩

/-- A sequence of two. -/
theorem matches_both_iff {g g' : Grammar} :
    Matches rules input ⟨.sequence [g, g'], d, ρ⟩ position v next ↔
      ∃ w mid w', Matches rules input ⟨g, d, ρ⟩ position w mid ∧
        Matches rules input ⟨g', d, ρ⟩ mid w' next ∧ v = .arr [w, w'] := by
  rw [matches_sequence_iff]
  constructor
  · rintro ⟨vs, rfl, ht⟩
    obtain _ | @⟨_, _, _, mid, _, w, _, hm, _ | @⟨_, _, _, _, _, w', _, hm', _ | _⟩⟩ := ht
    exact ⟨w, mid, w', hm, hm', rfl⟩
  · rintro ⟨w, mid, w', hm, hm', rfl⟩
    exact ⟨_, rfl, .cons hm (.cons hm' .nil)⟩

theorem fails_sequence_cons {g : Grammar} {gs : List Grammar}
    (h : Fails rules input ⟨g, d, ρ⟩ position) :
    Fails rules input ⟨.sequence (g :: gs), d, ρ⟩ position := by
  obtain ⟨o, failures, hd, ho⟩ := h
  exact ⟨_, failures, .sequence rfl (.parts_fails hd ho), rfl⟩

theorem chooses_iff {cs : List Closure} :
    (∃ failures,
        Derives rules input (.alternatives cs) position (.ok (.success v next)) failures) ↔
      Chooses rules input cs position v next := by
  constructor
  · rintro ⟨failures, h⟩
    induction cs generalizing failures with
    | nil => cases h
    | cons c cs ih =>
      cases h with
      | alternatives_match hd _ => exact .here ⟨_, hd⟩
      | alternatives_next hd ho hd' => exact .there ⟨_, _, hd, ho⟩ (ih _ hd')
  · intro h
    induction h with
    | here hm =>
      obtain ⟨failures, hd⟩ := hm
      exact ⟨failures, .alternatives_match hd rfl⟩
    | there hf _ ih =>
      obtain ⟨o, failures, hd, ho⟩ := hf
      obtain ⟨failures', hd'⟩ := ih
      exact ⟨_, .alternatives_next hd ho hd'⟩

theorem matches_choice_iff {gs : List Grammar} :
    Matches rules input ⟨.choice gs, d, ρ⟩ position v next ↔
      Chooses rules input (gs.map (Closure.mk · d ρ)) position v next := by
  rw [← chooses_iff]
  exact exists_congr fun _ => derives_choice_iff rfl

theorem Iterates.exists_derives {c : Closure} {vs : List Value}
    (h : Iterates rules input c position vs next) :
    ∃ failures,
      Derives rules input (.iterations c) position (.ok (.success (.arr vs) next)) failures := by
  induction h with
  | stop hf =>
    obtain ⟨o, failures, hd, ho⟩ := hf
    exact ⟨failures, .iterations_stop hd ho⟩
  | next hm hn _ ih =>
    obtain ⟨failures, hd⟩ := hm
    obtain ⟨failures', hd'⟩ := ih
    exact ⟨_, .iterations_next hd hn hd'⟩

theorem iterates_of_derives {c : Closure} {failures : List Failure}
    (h : Derives rules input (.iterations c) position (.ok (.success v next)) failures) :
    ∃ vs, v = .arr vs ∧ Iterates rules input c position vs next := by
  generalize ht : Task.iterations c = task at h
  generalize hs : (Except.ok (.success v next) : Step) = step at h
  induction h generalizing v with
  | iterations_stop hd ho =>
    cases ht
    cases hs
    exact ⟨[], rfl, .stop ⟨_, _, hd, ho⟩⟩
  | iterations_next hd hn _ _ ih =>
    cases ht
    obtain ⟨u, rfl, hu⟩ := Step.exists_of_cons_eq hs.symm
    obtain ⟨vs, rfl, hvs⟩ := ih rfl rfl
    exact ⟨_, hu vs rfl, .next ⟨_, hd⟩ hn hvs⟩
  | iterations_stall | iterations_error => cases hs
  | _ => cases ht

theorem matches_many_iff {g : Grammar} :
    Matches rules input ⟨.many g, d, ρ⟩ position v next ↔
      ∃ vs, v = .arr vs ∧ Iterates rules input ⟨g, d, ρ⟩ position vs next := by
  constructor
  · rintro ⟨_, hd⟩
    exact iterates_of_derives ((derives_many_iff rfl).1 hd)
  · rintro ⟨vs, rfl, h⟩
    obtain ⟨failures, hd⟩ := h.exists_derives
    exact ⟨failures, .many rfl hd⟩

end

end Descent
