import Descent.Proofs.Meaning.Invert

/-!
# One answer

A task answers one thing at a position and records one thing (`Derives.unique`), so that a
derivation may be spoken of as the run of the task.
-/

namespace Descent

section
variable {rules : Rules} {input : List Char} {position : Nat} {step : Step}
  {failures : List Failure}

/-! ## More on what is derived -/

/-- An error of a combinator that shapes, or only watches, one body is an error of the body. -/
theorem derives_body_error_iff {c : Closure} {g : Grammar} {error : GrammarError}
    (hg : c.grammar.body? = some g) :
    Derives rules input (.whole c) position (.error error) failures ↔
      Derives rules input (.whole (c.inner g)) position (.error error) failures := by
  refine ⟨fun h => ?_, .body_error hg⟩
  cases h with
  | body_error hg' h =>
    obtain rfl := Option.some.inj (hg.symm.trans hg')
    exact h
  | recognizes h =>
    obtain ⟨g', d, ρ⟩ := c
    cases g' <;> cases hg <;> cases h
  | means hm => cases hm <;> cases hg
  | dangles hd => cases hd <;> cases hg
  | sequence hg' | choice hg' | many hg' =>
    rw [hg'] at hg
    cases hg

theorem derives_dangles_iff {c : Closure} {error : GrammarError} (hd : c.Dangles rules error) :
    Derives rules input (.whole c) position step failures ↔
      step = .error error ∧ failures = [] := by
  constructor
  · intro h
    cases h with
    | dangles hd' => exact ⟨by rw [hd.unique hd'], rfl⟩
    | means hm => exact absurd hd hm.not_dangles
    | recognizes h => cases hd <;> cases h
    | reshapes h => cases hd <;> cases h
    | labelled_match h | labelled_fails h | body_error h | sequence h | choice h | many h =>
      cases hd <;> cases h
  · rintro ⟨rfl, rfl⟩
    exact .dangles hd

/-- Where such a combinator comes to an outcome, so does the body. -/
theorem Derives.exists_of_body? {c : Closure} {g : Grammar} {o : Outcome Value}
    (hg : c.grammar.body? = some g)
    (h : Derives rules input (.whole c) position (.ok o) failures) :
    ∃ o' failures', Derives rules input (.whole (c.inner g)) position (.ok o') failures' := by
  generalize ht : Task.whole c = task at h
  generalize ho : (Except.ok o : Step) = step at h
  cases h with
  | reshapes hr hd =>
    cases ht
    obtain rfl := Option.some.inj (hg.symm.trans hr.body?_eq)
    exact ⟨_, _, hd⟩
  | labelled_match hg' hd _ | labelled_fails hg' hd _ =>
    cases ht
    obtain rfl := Option.some.inj (hg.symm.trans (by rw [hg']; rfl))
    exact ⟨_, _, hd⟩
  | recognizes h =>
    cases ht
    obtain ⟨g', d, ρ⟩ := c
    cases g' <;> cases hg <;> cases h
  | means hm => cases ht; cases hm <;> cases hg
  | sequence hg' | choice hg' | many hg' =>
    cases ht
    rw [hg'] at hg
    cases hg
  | dangles | body_error => cases ho
  | _ => cases ht

/-! ## One answer -/

/-- A pattern that answers compiles. -/
theorem Recognizes.exists_pattern {expression : String} {ignoreCase : Bool}
    (h : Recognizes input position (.pattern expression ignoreCase) step) :
    ∃ p, Pattern.compile? expression ignoreCase = some p := by
  cases h with
  | pattern hp | pattern_fails hp => exact ⟨_, hp⟩

theorem Recognizes.unique {g : Grammar} {step' : Step} (h : Recognizes input position g step)
    (h' : Recognizes input position g step') : step = step' := by
  cases g with
  | literal => rw [recognizes_literal_iff.1 h, recognizes_literal_iff.1 h']
  | charClass => rw [recognizes_charClass_iff.1 h, recognizes_charClass_iff.1 h']
  | custom => rw [recognizes_custom_iff.1 h, recognizes_custom_iff.1 h']
  | pattern expression ignoreCase =>
    obtain ⟨p, hp⟩ := h.exists_pattern
    rw [(recognizes_pattern_iff hp).1 h, (recognizes_pattern_iff hp).1 h']
  | _ => cases h

theorem Recognizes.leaf {g : Grammar} (h : Recognizes input position g step) : g.Leaf := by
  cases h <;> trivial

theorem Reshapes.unique {g body : Grammar} {o o₁ o₂ : Outcome Value}
    (h₁ : Reshapes position g body o o₁) (h₂ : Reshapes position g body o o₂) : o₁ = o₂ := by
  obtain rfl | ⟨f, rfl⟩ | ⟨f, rfl⟩ | ⟨accepts, rfl⟩ | ⟨accepts, rfl⟩ :
      g = .optional body ∨ (∃ f, g = .transform f body) ∨ (∃ f, g = .tryTransform f body) ∨
        (∃ accepts, g = .tag accepts body) ∨ ∃ accepts, g = .guarded accepts body := by
    cases h₁ <;> simp
  · rw [reshapes_optional_iff.1 h₁, reshapes_optional_iff.1 h₂]
  · rw [reshapes_transform_iff.1 h₁, reshapes_transform_iff.1 h₂]
  · rw [reshapes_tryTransform_iff.1 h₁, reshapes_tryTransform_iff.1 h₂]
  · rw [reshapes_tag_iff.1 h₁, reshapes_tag_iff.1 h₂]
  · rw [reshapes_guarded_iff.1 h₁, reshapes_guarded_iff.1 h₂]

/-- The combinators that change an outcome change every outcome. -/
theorem Reshapes.total {g body : Grammar} {o o' : Outcome Value}
    (h : Reshapes position g body o o') (o₁ : Outcome Value) :
    ∃ o₁', Reshapes position g body o₁ o₁' := by
  cases h with
  | optional_match | optional_none _ => exact ⟨_, reshapes_optional_iff.2 rfl⟩
  | transform_match | transform_fails _ => exact ⟨_, reshapes_transform_iff.2 rfl⟩
  | tryTransform_match _ | tryTransform_none _ | tryTransform_fails _ =>
    exact ⟨_, reshapes_tryTransform_iff.2 rfl⟩
  | tag_accepts _ | tag_rejects _ | tag_fails _ => exact ⟨_, reshapes_tag_iff.2 rfl⟩
  | guarded_accepts _ | guarded_rejects _ | guarded_fails _ =>
    exact ⟨_, reshapes_guarded_iff.2 rfl⟩

/-- A task answers one thing at a position, and records one thing. -/
theorem Derives.unique {task : Task} {step' : Step} {failures' : List Failure}
    (h : Derives rules input task position step failures)
    (h' : Derives rules input task position step' failures') :
    step = step' ∧ failures = failures' := by
  -- Both derivations are of one task, and most tasks can be derived in one way only. Where there
  -- are more, the part that comes first tells them apart, since it has one answer.
  induction h generalizing step' failures' with
  | recognizes h =>
    obtain ⟨hr, rfl⟩ := (derives_leaf_iff h.leaf).1 h'
    exact ⟨h.unique hr, rfl⟩
  | means hm _ ih => exact ih ((derives_means_iff hm).1 h')
  | dangles hd =>
    obtain ⟨rfl, rfl⟩ := (derives_dangles_iff hd).1 h'
    exact ⟨rfl, rfl⟩
  | reshapes hr _ ih =>
    match step' with
    | .error error =>
      -- it would be the error of a body that has an outcome
      have herror := (derives_body_error_iff hr.body?_eq).1 h'
      exact nomatch (ih herror).1
    | .ok o =>
      obtain ⟨o₁, hr', hd⟩ := (derives_shape_iff hr.total).1 h'
      obtain ⟨ho, rfl⟩ := ih hd
      cases ho
      exact ⟨by rw [hr.unique hr'], rfl⟩
  | labelled_match hg _ ho ih =>
    match step' with
    | .error error => exact nomatch (ih ((derives_body_error_iff (by rw [hg]; rfl)).1 h')).1
    | .ok o =>
      obtain ⟨failures₁, hd, rfl⟩ := (derives_labelled_iff hg).1 h'
      obtain ⟨ho', rfl⟩ := ih hd
      cases ho'
      exact ⟨rfl, by simp [ho]⟩
  | labelled_fails hg _ ho ih =>
    match step' with
    | .error error => exact nomatch (ih ((derives_body_error_iff (by rw [hg]; rfl)).1 h')).1
    | .ok o =>
      obtain ⟨failures₁, hd, rfl⟩ := (derives_labelled_iff hg).1 h'
      obtain ⟨ho', rfl⟩ := ih hd
      cases ho'
      exact ⟨rfl, by simp [ho]⟩
  | body_error hg _ ih =>
    match step' with
    | .error error => exact ih ((derives_body_error_iff hg).1 h')
    | .ok o =>
      obtain ⟨o', failures₁, hd⟩ := Derives.exists_of_body? hg h'
      exact nomatch (ih hd).1
  | sequence hg _ ih => exact ih ((derives_sequence_iff hg).1 h')
  | choice hg _ ih => exact ih ((derives_choice_iff hg).1 h')
  | many hg _ ih => exact ih ((derives_many_iff hg).1 h')
  | parts_nil =>
    cases h'
    exact ⟨rfl, rfl⟩
  | parts_cons _ _ ih ih' =>
    cases h' with
    | parts_cons hd hd' =>
      obtain ⟨hs, rfl⟩ := ih hd
      cases hs
      obtain ⟨rfl, rfl⟩ := ih' hd'
      exact ⟨rfl, rfl⟩
    | parts_fails hd ho => cases (ih hd).1; cases ho
    | parts_error hd => cases (ih hd).1
  | parts_fails _ ho ih =>
    cases h' with
    | parts_cons hd _ => cases (ih hd).1; cases ho
    | parts_fails hd _ =>
      obtain ⟨hs, rfl⟩ := ih hd
      cases hs
      exact ⟨rfl, rfl⟩
    | parts_error hd => cases (ih hd).1
  | parts_error _ ih =>
    cases h' with
    | parts_cons hd _ | parts_fails hd _ => cases (ih hd).1
    | parts_error hd => exact ih hd
  | alternatives_nil =>
    cases h'
    exact ⟨rfl, rfl⟩
  | alternatives_match _ ho ih =>
    cases h' with
    | alternatives_match hd _ => exact ih hd
    | alternatives_next hd ho' _ => cases (ih hd).1; rw [ho] at ho'; cases ho'
    | alternatives_error hd => cases (ih hd).1
  | alternatives_next _ ho _ ih ih' =>
    cases h' with
    | alternatives_match hd ho' => cases (ih hd).1; rw [ho] at ho'; cases ho'
    | alternatives_next hd _ hd' =>
      obtain ⟨-, rfl⟩ := ih hd
      obtain ⟨rfl, rfl⟩ := ih' hd'
      exact ⟨rfl, rfl⟩
    | alternatives_error hd => cases (ih hd).1
  | alternatives_error _ ih =>
    cases h' with
    | alternatives_match hd _ | alternatives_next hd _ _ => cases (ih hd).1
    | alternatives_error hd => exact ih hd
  | iterations_stop _ ho ih =>
    cases h' with
    | iterations_stop hd _ => exact ⟨rfl, (ih hd).2⟩
    | iterations_next hd _ _ | iterations_stall hd => cases (ih hd).1; cases ho
    | iterations_error hd => cases (ih hd).1
  | iterations_next _ hn _ ih ih' =>
    cases h' with
    | iterations_stop hd ho => cases (ih hd).1; cases ho
    | iterations_next hd _ hd' =>
      obtain ⟨hs, rfl⟩ := ih hd
      cases hs
      obtain ⟨rfl, rfl⟩ := ih' hd'
      exact ⟨rfl, rfl⟩
    | iterations_stall hd => cases (ih hd).1; exact absurd rfl hn
    | iterations_error hd => cases (ih hd).1
  | iterations_stall _ ih =>
    cases h' with
    | iterations_stop hd ho => cases (ih hd).1; cases ho
    | iterations_next hd hn _ => cases (ih hd).1; exact absurd rfl hn
    | iterations_stall hd => exact ⟨rfl, (ih hd).2⟩
    | iterations_error hd => cases (ih hd).1
  | iterations_error _ ih =>
    cases h' with
    | iterations_stop hd _ | iterations_next hd _ _ | iterations_stall hd => cases (ih hd).1
    | iterations_error hd => exact ih hd

end

end Descent
