import Descent.Proofs.Meaning.Calls
import Descent.Proofs.Meaning.Matches

/-!
# Where errors come from

`c.Raises rules input error`: the definition itself comes to the error, and not something that it
invokes. There is nothing behind its name, it is a custom leaf that answers so, or it repeats
something that has matched without advancing. An answer that is an error is raised by some
definition that the task leads to (`Derives.exists_raises`).
-/

namespace Descent

namespace Closure

/-- What the error is raised by. -/
inductive Raises (rules : Rules) (input : List Char) : Closure → GrammarError → Prop
  | dangles {c : Closure} {error : GrammarError} : c.Dangles rules error →
      Raises rules input c error
  | custom {c : Closure} {answer : List Char → Nat → Step} {position : Nat}
      {error : GrammarError} : c.grammar = .custom answer →
      answer input position = .error error → Raises rules input c error
  | stalls {c : Closure} {g : Grammar} {position : Nat} {v : Value} : c.grammar = .many g →
      Matches rules input (c.inner g) position v position →
      Raises rules input c (.zeroWidthRepetition position)

/-- Something that the definition leads to raises the error. -/
def Blames (rules : Rules) (input : List Char) (error : GrammarError) (c : Closure) : Prop :=
  ∃ c', c.Leads rules c' ∧ c'.Raises rules input error

section
variable {rules : Rules} {input : List Char} {error : GrammarError} {c c' : Closure}

theorem Raises.blames (h : c.Raises rules input error) : c.Blames rules input error :=
  ⟨c, .refl, h⟩

/-- What a definition calls is to blame for what the definition answers. -/
theorem Blames.called (h : c'.Blames rules input error) (hc : c.Calls rules c') :
    c.Blames rules input error := by
  obtain ⟨c'', hl, hr⟩ := h
  exact ⟨c'', .head hc hl, hr⟩

theorem blames_of_parts {gs : List Grammar} (hgs : c.grammar.parts = gs)
    (h : ∃ c' ∈ gs.map c.inner, c'.Blames rules input error) : c.Blames rules input error := by
  obtain ⟨c', hc', h⟩ := h
  obtain ⟨g, hg, rfl⟩ := List.mem_map.1 hc'
  exact h.called (.part (by rwa [hgs]))

theorem Always.not_blames (h : c.Always rules fun c' => ¬ c'.Raises rules input error) :
    ¬ c.Blames rules input error := by
  rintro ⟨c', hl, hr⟩
  exact h c' hl hr

end

end Closure

section
variable {rules : Rules} {input : List Char} {task : Task} {position : Nat} {error : GrammarError}
  {failures : List Failure}

theorem Recognizes.eq_custom {g : Grammar} (h : Recognizes input position g (.error error)) :
    ∃ answer, g = .custom answer ∧ answer input position = .error error := by
  generalize hstep : Except.error error = step at h
  cases h with
  | custom => exact ⟨_, rfl, rfl⟩
  | _ => cases hstep

theorem Step.eq_error_of_cons {step : Step} {v : Value} (h : step.cons v = .error error) :
    step = .error error := by
  unfold Step.cons at h
  split at h
  · cases h
  · exact h

/-- An error is raised by something that the task leads to, unless the task is the repetition that
raises it. -/
theorem Derives.exists_raises (h : Derives rules input task position (.error error) failures) :
    (∃ c ∈ task.closures, c.Blames rules input error) ∨
      ∃ c v n, task = .iterations c ∧ error = .zeroWidthRepetition n ∧
        Matches rules input c n v n := by
  generalize hstep : Except.error error = step at h
  induction h with
  | recognizes hr =>
    subst hstep
    obtain ⟨answer, hg, ha⟩ := hr.eq_custom
    exact .inl ⟨_, List.mem_singleton_self _, (Closure.Raises.custom hg ha).blames⟩
  | dangles hd =>
    cases hstep
    exact .inl ⟨_, List.mem_singleton_self _, (Closure.Raises.dangles hd).blames⟩
  | means hm _ ih =>
    obtain ⟨c', hc', h⟩ | ⟨_, _, _, ht, -⟩ := ih hstep
    · obtain rfl := List.mem_singleton.1 hc'
      exact .inl ⟨_, List.mem_singleton_self _, h.called (.means hm)⟩
    · cases ht
  | body_error hb _ ih =>
    obtain ⟨c', hc', h⟩ | ⟨_, _, _, ht, -⟩ := ih hstep
    · obtain rfl := List.mem_singleton.1 hc'
      have hpart := h.called (.part (by simp [Grammar.parts_of_body? hb]))
      exact .inl ⟨_, List.mem_singleton_self _, hpart⟩
    · cases ht
  | sequence hg _ ih | choice hg _ ih =>
    obtain h | ⟨_, _, _, ht, -⟩ := ih hstep
    · exact .inl ⟨_, List.mem_singleton_self _, Closure.blames_of_parts (by rw [hg]; rfl) h⟩
    · cases ht
  | many hg _ ih =>
    obtain ⟨c', hc', h⟩ | ⟨c', v, n, ht, rfl, hm⟩ := ih hstep
    · obtain rfl := List.mem_singleton.1 hc'
      have hpart := h.called (.part (by simp [hg, Grammar.parts]))
      exact .inl ⟨_, List.mem_singleton_self _, hpart⟩
    · -- the repetition is what the iterations belong to
      cases ht
      exact .inl ⟨_, List.mem_singleton_self _, (Closure.Raises.stalls hg hm).blames⟩
  | parts_cons _ _ _ ih =>
    -- a match in front does not hide the error of the parts behind it
    have hrest := (Step.eq_error_of_cons hstep.symm).symm
    obtain ⟨c, hc, h⟩ | ⟨_, _, _, ht, -⟩ := ih hrest
    · exact .inl ⟨c, List.mem_cons_of_mem _ hc, h⟩
    · cases ht
  | alternatives_next _ _ _ _ ih =>
    obtain ⟨c, hc, h⟩ | ⟨_, _, _, ht, -⟩ := ih hstep
    · exact .inl ⟨c, List.mem_cons_of_mem _ hc, h⟩
    · cases ht
  | parts_error _ ih | alternatives_error _ ih =>
    obtain ⟨c, hc, h⟩ | ⟨_, _, _, ht, -⟩ := ih hstep
    · exact .inl ⟨c, List.mem_cons.2 (.inl (List.mem_singleton.1 hc)), h⟩
    · cases ht
  | iterations_next _ _ _ _ ih => exact ih (Step.eq_error_of_cons hstep.symm).symm
  | iterations_stall hd _ =>
    cases hstep
    exact .inr ⟨_, _, _, rfl, rfl, _, hd⟩
  | iterations_error _ ih =>
    obtain h | ⟨_, _, _, ht, -⟩ := ih hstep
    · exact .inl h
    · cases ht
  | reshapes _ _ _ | labelled_match _ _ _ _ | labelled_fails _ _ _ _ | parts_nil
  | parts_fails _ _ _ | alternatives_nil | alternatives_match _ _ _ | iterations_stop _ _ _ =>
    cases hstep

/-- Something that a definition leads to raises the error that the definition answers. -/
theorem Derives.blames {c : Closure}
    (h : Derives rules input (.whole c) position (.error error) failures) :
    c.Blames rules input error := by
  obtain ⟨c', hc', h⟩ | ⟨_, _, _, ht, -⟩ := h.exists_raises
  · rwa [← List.mem_singleton.1 hc']
  · cases ht

end

end Descent
