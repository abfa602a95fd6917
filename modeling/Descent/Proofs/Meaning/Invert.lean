import Descent.Proofs.Meaning.Leaves

/-!
# What is derived, by definition

For each kind of definition, what has been derived when it answers. A name answers what it means
(`derives_means_iff`), a leaf what it recognizes, and a combinator what its parts give.
-/

namespace Descent

/-! ## Names -/

section
variable {rules : Rules}

/-- A definition means at most one other. -/
theorem Closure.Means.unique {c c₁ c₂ : Closure} (h₁ : c.Means rules c₁) (h₂ : c.Means rules c₂) :
    c₁ = c₂ := by
  cases h₁ with
  | var h => cases h₂ with | var h' => exact Option.some.inj (h.symm.trans h')
  | bind => cases h₂; rfl
  | rule h => cases h₂ with | rule h' => rw [Option.some.inj (h.symm.trans h')]
  | recursive => cases h₂; rfl
  | deferred _ => cases h₂; rfl

/-- A definition that means another does not dangle. -/
theorem Closure.Means.not_dangles {c c' : Closure} {error : GrammarError}
    (h : c.Means rules c') : ¬ c.Dangles rules error := by
  intro hd
  cases h with
  | var h => cases hd with | var h' => rw [h] at h'; cases h'
  | bind => cases hd
  | rule h =>
    cases hd with
    | rule h' =>
      rw [h] at h'
      rcases h' with h' | h' <;> cases h'
  | recursive => cases hd
  | deferred h => cases hd with | deferred h' => rw [h] at h'; cases h'

theorem Closure.Dangles.unique {c : Closure} {e₁ e₂ : GrammarError} (h₁ : c.Dangles rules e₁)
    (h₂ : c.Dangles rules e₂) : e₁ = e₂ := by
  cases h₁ with
  | var _ => cases h₂; rfl
  | rule _ => cases h₂; rfl
  | deferred h => cases h₂ with | deferred h' => exact Option.some.inj (h.symm.trans h')

end

section
variable {rules : Rules} {input : List Char} {position : Nat} {step : Step}
  {failures : List Failure} {d : Nat} {ρ : List (String × Closure)}

/-- A name answers what its meaning answers. -/
theorem derives_means_iff {c c' : Closure} (hm : c.Means rules c') :
    Derives rules input (.whole c) position step failures ↔
      Derives rules input (.whole c') position step failures := by
  refine ⟨fun h => ?_, .means hm⟩
  cases h with
  | means hm' h => rwa [hm.unique hm']
  | dangles hd => exact absurd hd hm.not_dangles
  | recognizes h => cases hm <;> cases h
  | reshapes h => cases hm <;> cases h
  | labelled_match h | labelled_fails h | body_error h | sequence h | choice h | many h =>
    cases hm <;> cases h

/-! ## Leaves and shapes -/

/-- A definition without parts. -/
def Grammar.Leaf : Grammar → Prop
  | .literal _ | .charClass _ _ | .pattern _ _ | .custom _ => True
  | _ => False

/-- A leaf answers what it recognizes, and nothing is recorded. -/
theorem derives_leaf_iff {c : Closure} (hl : c.grammar.Leaf) :
    Derives rules input (.whole c) position step failures ↔
      Recognizes input position c.grammar step ∧ failures = [] := by
  constructor
  · intro h
    cases h with
    | recognizes h => exact ⟨h, rfl⟩
    | means hm => cases hm <;> cases hl
    | dangles hd => cases hd <;> cases hl
    | reshapes hr =>
      obtain ⟨g, d, ρ⟩ := c
      cases hr <;> cases hl
    | body_error hg =>
      obtain ⟨g, d, ρ⟩ := c
      cases g <;> cases hg <;> cases hl
    | labelled_match hg | labelled_fails hg | sequence hg | choice hg | many hg =>
      rw [hg] at hl
      cases hl
  · rintro ⟨h, rfl⟩
    exact .recognizes h

/-- A combinator that changes the outcomes of one body. -/
theorem derives_shape_iff {c : Closure} {g : Grammar} {o' : Outcome Value}
    (hs : ∀ o, ∃ o', Reshapes position c.grammar g o o') :
    Derives rules input (.whole c) position (.ok o') failures ↔
      ∃ o, Reshapes position c.grammar g o o' ∧
        Derives rules input (.whole (c.inner g)) position (.ok o) failures := by
  constructor
  · intro h
    obtain ⟨_, hs⟩ := hs (.failure 0)
    generalize ht : Task.whole c = task at h
    generalize ho : (Except.ok o' : Step) = step at h
    obtain ⟨g', d, ρ⟩ := c
    cases h with
    | @reshapes c body _ o o₁ _ hr hd =>
      cases ht
      cases ho
      obtain rfl : body = g := Option.some.inj (hr.body?_eq.symm.trans hs.body?_eq)
      exact ⟨o, hr, hd⟩
    | recognizes h => cases ht; cases hs <;> cases h
    | means hm => cases ht; cases hs <;> cases hm
    | dangles hd => cases ho
    | body_error => cases ho
    | labelled_match hg | labelled_fails hg | sequence hg | choice hg | many hg =>
      cases ht
      cases hg
      cases hs
    | _ => cases ht
  · rintro ⟨o, hr, hd⟩
    exact .reshapes hr hd

/-! ## Combinators -/

theorem derives_sequence_iff {c : Closure} {gs : List Grammar} (hg : c.grammar = .sequence gs) :
    Derives rules input (.whole c) position step failures ↔
      Derives rules input (.parts (gs.map c.inner)) position step failures := by
  refine ⟨fun h => ?_, .sequence hg⟩
  cases h with
  | sequence hg' h =>
    rw [hg] at hg'
    cases hg'
    exact h
  | recognizes h => rw [hg] at h; cases h
  | means hm => cases hm <;> cases hg
  | dangles hd => cases hd <;> cases hg
  | reshapes hr => rw [hg] at hr; cases hr
  | labelled_match hg' | labelled_fails hg' | body_error hg' | choice hg' | many hg' =>
    rw [hg] at hg'
    cases hg'

theorem derives_choice_iff {c : Closure} {gs : List Grammar} (hg : c.grammar = .choice gs) :
    Derives rules input (.whole c) position step failures ↔
      Derives rules input (.alternatives (gs.map c.inner)) position step failures := by
  refine ⟨fun h => ?_, .choice hg⟩
  cases h with
  | choice hg' h =>
    rw [hg] at hg'
    cases hg'
    exact h
  | recognizes h => rw [hg] at h; cases h
  | means hm => cases hm <;> cases hg
  | dangles hd => cases hd <;> cases hg
  | reshapes hr => rw [hg] at hr; cases hr
  | labelled_match hg' | labelled_fails hg' | body_error hg' | sequence hg' | many hg' =>
    rw [hg] at hg'
    cases hg'

theorem derives_many_iff {c : Closure} {g : Grammar} (hg : c.grammar = .many g) :
    Derives rules input (.whole c) position step failures ↔
      Derives rules input (.iterations (c.inner g)) position step failures := by
  refine ⟨fun h => ?_, .many hg⟩
  cases h with
  | many hg' h =>
    rw [hg] at hg'
    cases hg'
    exact h
  | recognizes h => rw [hg] at h; cases h
  | means hm => cases hm <;> cases hg
  | dangles hd => cases hd <;> cases hg
  | reshapes hr => rw [hg] at hr; cases hr
  | labelled_match hg' | labelled_fails hg' | body_error hg' | sequence hg' | choice hg' =>
    rw [hg] at hg'
    cases hg'

theorem derives_labelled_iff {c : Closure} {label : String} {g : Grammar} {o : Outcome Value}
    (hg : c.grammar = .labelled label g) :
    Derives rules input (.whole c) position (.ok o) failures ↔
      ∃ failures', Derives rules input (.whole (c.inner g)) position (.ok o) failures' ∧
        failures = failures' ++ if o.matched then [] else [⟨position, label⟩] := by
  constructor
  · intro h
    cases h with
    | labelled_match hg' h ho =>
      rw [hg] at hg'
      cases hg'
      exact ⟨_, h, by simp [ho]⟩
    | labelled_fails hg' h ho =>
      rw [hg] at hg'
      cases hg'
      exact ⟨_, h, by simp [ho]⟩
    | recognizes h => rw [hg] at h; cases h
    | means hm => cases hm <;> cases hg
    | reshapes hr => rw [hg] at hr; cases hr
    | sequence hg' | choice hg' | many hg' =>
      rw [hg] at hg'
      cases hg'
  · rintro ⟨failures', h, rfl⟩
    cases ho : o.matched with
    | true => simpa using .labelled_match hg h ho
    | false => simpa using .labelled_fails hg h ho

end

end Descent
