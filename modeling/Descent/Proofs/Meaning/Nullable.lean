import Descent.Proofs.Meaning.Raises

/-!
# Nullability

`c.Nullable rules` is what a static check finds out about a definition: it may match the empty text.
It is the least such relation, so that rules that are nullable through each other only are not. The
check is sound for definitions without custom parts: what is not nullable advances wherever it
matches (`Closure.Standard.next_ne`). A repetition of such a body never stalls, and where all
repetitions are of such bodies (`Closure.Productive`), nothing that is invoked does.
-/

namespace Descent

namespace Closure

/-- The definition may match the empty text. -/
inductive Nullable (rules : Rules) : Closure → Prop
  | literal {d : Nat} {ρ : List (String × Closure)} : Nullable rules ⟨.literal "", d, ρ⟩
  /-- A pattern that matches the empty text in front of some text. -/
  | pattern {expression : String} {ignoreCase : Bool} {p : Pattern} {rest : List Char} {d : Nat}
      {ρ : List (String × Closure)} : Pattern.compile? expression ignoreCase = some p →
      p.match? rest = some [] → Nullable rules ⟨.pattern expression ignoreCase, d, ρ⟩
  | many {body : Grammar} {d : Nat} {ρ : List (String × Closure)} :
      Nullable rules ⟨.many body, d, ρ⟩
  | optional {body : Grammar} {d : Nat} {ρ : List (String × Closure)} :
      Nullable rules ⟨.optional body, d, ρ⟩
  | sequence {gs : List Grammar} {d : Nat} {ρ : List (String × Closure)} :
      (∀ g ∈ gs, Nullable rules ⟨g, d, ρ⟩) → Nullable rules ⟨.sequence gs, d, ρ⟩
  | choice {g : Grammar} {gs : List Grammar} {d : Nat} {ρ : List (String × Closure)} : g ∈ gs →
      Nullable rules ⟨g, d, ρ⟩ → Nullable rules ⟨.choice gs, d, ρ⟩
  /-- What changes the matches of a nullable definition, refuses some or only watches. -/
  | body {c : Closure} {g : Grammar} : c.grammar.body? = some g → Nullable rules (c.inner g) →
      Nullable rules c
  /-- A name of a nullable definition. -/
  | means {c c' : Closure} : c.Means rules c' → Nullable rules c' → Nullable rules c

/-- If the definition is a repetition, then not of a nullable body. -/
def Productive (rules : Rules) (c : Closure) : Prop :=
  ∀ g, c.grammar = .many g → ¬ (c.inner g).Nullable rules

/-! ## By definition -/

section
variable {rules : Rules} {d : Nat} {ρ : List (String × Closure)}

theorem nullable_means_iff {c c' : Closure} (hm : c.Means rules c') :
    c.Nullable rules ↔ c'.Nullable rules := by
  refine ⟨fun h => ?_, .means hm⟩
  cases h with
  | means hm' h => rwa [hm.unique hm']
  | body hg _ => cases hm <;> cases hg
  | _ => cases hm

theorem nullable_literal_iff {text : String} : Nullable rules ⟨.literal text, d, ρ⟩ ↔ text = "" := by
  constructor
  · intro h
    cases h with
    | literal => rfl
    | body hg _ => cases hg
    | means hm _ => cases hm
  · rintro rfl
    exact .literal

theorem not_nullable_charClass {set : String} {negate : Bool} :
    ¬ Nullable rules ⟨.charClass set negate, d, ρ⟩ := by
  intro h
  cases h with
  | body hg _ => cases hg
  | means hm _ => cases hm

theorem nullable_sequence_iff {gs : List Grammar} :
    Nullable rules ⟨.sequence gs, d, ρ⟩ ↔ ∀ g ∈ gs, Nullable rules ⟨g, d, ρ⟩ := by
  refine ⟨fun h => ?_, .sequence⟩
  cases h with
  | sequence h => exact h
  | body hg _ => cases hg
  | means hm _ => cases hm

theorem nullable_choice_iff {gs : List Grammar} :
    Nullable rules ⟨.choice gs, d, ρ⟩ ↔ ∃ g ∈ gs, Nullable rules ⟨g, d, ρ⟩ := by
  constructor
  · intro h
    cases h with
    | choice hg h => exact ⟨_, hg, h⟩
    | body hg _ => cases hg
    | means hm _ => cases hm
  · rintro ⟨g, hg, h⟩
    exact .choice hg h

theorem nullable_transform_iff {f : Value → Value} {g : Grammar} :
    Nullable rules ⟨.transform f g, d, ρ⟩ ↔ Nullable rules ⟨g, d, ρ⟩ := by
  refine ⟨fun h => ?_, fun h => @Nullable.body rules ⟨.transform f g, d, ρ⟩ g rfl h⟩
  cases h with
  | body hg h => cases hg; exact h
  | means hm _ => cases hm

theorem nullable_labelled_iff {label : String} {g : Grammar} :
    Nullable rules ⟨.labelled label g, d, ρ⟩ ↔ Nullable rules ⟨g, d, ρ⟩ := by
  refine ⟨fun h => ?_, fun h => @Nullable.body rules ⟨.labelled label g, d, ρ⟩ g rfl h⟩
  cases h with
  | body hg h => cases hg; exact h
  | means hm _ => cases hm

end

end Closure

/-! ## Soundness -/

theorem Text.eq_nil_of_byteLength {text : List Char} (h : byteLength text = 0) : text = [] := by
  cases text with
  | nil => rfl
  | cons c cs =>
    have := c.utf8Size_pos
    rw [byteLength_cons] at h
    omega

/-- A task all of whose definitions that have to match are nullable. -/
def Task.Nullable (rules : Rules) : Task → Prop
  | .whole c => c.Nullable rules
  | .parts cs => ∀ c ∈ cs, c.Nullable rules
  | .alternatives cs => ∃ c ∈ cs, c.Nullable rules
  | .iterations _ => True

section
variable {rules : Rules} {input : List Char} {position next : Nat} {v : Value}

/-- A leaf matches from the position on, and nothing only if it is nullable. -/
theorem Recognizes.nullable {c : Closure}
    (h : Recognizes input position c.grammar (.ok (.success v next)))
    (hc : c.grammar.standard = true) :
    position ≤ next ∧ (next = position → c.Nullable rules) := by
  obtain ⟨g, d, ρ⟩ := c
  generalize hstep : (Except.ok (.success v next) : Step) = step at h
  cases h with
  | @literal text rest _ =>
    cases hstep
    refine ⟨Nat.le_add_right .., fun heq => Closure.nullable_literal_iff.2 ?_⟩
    have hempty : text.toList = [] := Text.eq_nil_of_byteLength (by omega)
    exact String.toList_eq_nil_iff.1 hempty
  | @charClass set negate c rest _ _ =>
    cases hstep
    have := c.utf8Size_pos
    exact ⟨Nat.le_add_right .., fun heq => by omega⟩
  | @pattern expression ignoreCase p text rest hp _ hm =>
    cases hstep
    refine ⟨Nat.le_add_right .., fun heq => ?_⟩
    obtain rfl : text = [] := Text.eq_nil_of_byteLength (by omega)
    exact .pattern hp hm
  | custom => cases hc
  | literal_fails _ | charClass_fails _ | pattern_fails _ _ => cases hstep

/-- Only an optional definition matches where its body does not. -/
theorem Reshapes.exists_of_match {g body : Grammar} {o : Outcome Value}
    (h : Reshapes position g body o (.success v next)) :
    (∃ w, o = .success w next) ∨ g = .optional body ∧ next = position := by
  generalize ho' : Outcome.success v next = o' at h
  cases h with
  | optional_none _ =>
    cases ho'
    exact .inr ⟨rfl, rfl⟩
  | optional_match | transform_match | tryTransform_match _ | tag_accepts _ | guarded_accepts _ =>
    cases ho'
    exact .inl ⟨_, rfl⟩
  | tag_fails hm | guarded_fails hm =>
    subst ho'
    cases hm
  | transform_fails _ | tryTransform_none _ | tryTransform_fails _ | tag_rejects _
  | guarded_rejects _ => cases ho'

/-- A match goes on from the position, and stays there only if the task is nullable. -/
theorem Derives.nullable (hrules : rules.Standard) {task : Task} {failures : List Failure}
    (h : Derives rules input task position (.ok (.success v next)) failures)
    (hc : ∀ c ∈ task.closures, c.Standard) :
    position ≤ next ∧ (next = position → task.Nullable rules) := by
  generalize hstep : (Except.ok (.success v next) : Step) = step at h
  induction h generalizing v next with
  | recognizes h =>
    subst hstep
    exact h.nullable (hc _ List.mem_cons_self).grammar
  | means hm _ ih =>
    have hmeant := (hc _ List.mem_cons_self).means hrules hm
    obtain ⟨hle, hn⟩ := ih (List.forall_mem_singleton.2 hmeant) hstep
    exact ⟨hle, fun heq => .means hm (hn heq)⟩
  | @reshapes c body _ _ _ _ hr _ ih =>
    cases hstep
    have hcl := hc _ List.mem_cons_self
    have hbody := hcl.inner (Grammar.standard_of_body? hr.body?_eq hcl.grammar)
    obtain ⟨w, rfl⟩ | ⟨hg, rfl⟩ := hr.exists_of_match
    · obtain ⟨hle, hn⟩ := ih (List.forall_mem_singleton.2 hbody) rfl
      exact ⟨hle, fun heq => .body hr.body?_eq (hn heq)⟩
    · -- only `optional` matches where its body does not
      obtain ⟨g, d, ρ⟩ := c
      obtain rfl : g = .optional body := hg
      exact ⟨Nat.le_refl _, fun _ => .optional⟩
  | labelled_match hg _ _ ih | labelled_fails hg _ _ ih =>
    have hcl := hc _ List.mem_cons_self
    have hb : Grammar.body? _ = some _ := congrArg Grammar.body? hg
    have hbody := hcl.inner (Grammar.standard_of_body? hb hcl.grammar)
    obtain ⟨hle, hn⟩ := ih (List.forall_mem_singleton.2 hbody) hstep
    exact ⟨hle, fun heq => .body hb (hn heq)⟩
  | @sequence c gs _ _ _ hg _ ih =>
    have hcl := hc _ List.mem_cons_self
    have hgs := hcl.grammar
    rw [hg, Grammar.standard] at hgs
    obtain ⟨hle, hn⟩ := ih (standard_map_inner hcl hgs) hstep
    obtain ⟨g, d, ρ⟩ := c
    obtain rfl : g = .sequence gs := hg
    refine ⟨hle, fun heq => Closure.nullable_sequence_iff.2 fun g hg => ?_⟩
    exact hn heq _ (List.mem_map_of_mem hg)
  | @choice c gs _ _ _ hg _ ih =>
    have hcl := hc _ List.mem_cons_self
    have hgs := hcl.grammar
    rw [hg, Grammar.standard] at hgs
    obtain ⟨hle, hn⟩ := ih (standard_map_inner hcl hgs) hstep
    obtain ⟨g, d, ρ⟩ := c
    obtain rfl : g = .choice gs := hg
    refine ⟨hle, fun heq => Closure.nullable_choice_iff.2 ?_⟩
    obtain ⟨c', hc', hnull⟩ := hn heq
    obtain ⟨g, hg, rfl⟩ := List.mem_map.1 hc'
    exact ⟨g, hg, hnull⟩
  | @many c body _ _ _ hg _ ih =>
    have hcl := hc _ List.mem_cons_self
    have hgs := hcl.grammar
    rw [hg, Grammar.standard] at hgs
    obtain ⟨hle, -⟩ := ih (List.forall_mem_singleton.2 (hcl.inner hgs)) hstep
    obtain ⟨g, d, ρ⟩ := c
    obtain rfl : g = .many body := hg
    exact ⟨hle, fun _ => .many⟩
  | parts_nil =>
    cases hstep
    exact ⟨Nat.le_refl _, fun _ => List.forall_mem_nil _⟩
  | parts_cons _ _ ih ih' =>
    obtain ⟨hcl, hcs⟩ := List.forall_mem_cons.1 hc
    obtain ⟨u, rfl, -⟩ := Step.exists_of_cons_eq hstep.symm
    obtain ⟨hle, hn⟩ := ih (List.forall_mem_singleton.2 hcl) rfl
    obtain ⟨hle', hn'⟩ := ih' hcs rfl
    refine ⟨Nat.le_trans hle hle', fun heq => ?_⟩
    -- all parts together stay where they are only if each of them does
    have hfirst : _ = _ := Nat.le_antisymm (heq ▸ hle') hle
    have hrest : _ = _ := heq.trans hfirst.symm
    exact List.forall_mem_cons.2 ⟨hn hfirst, hn' hrest⟩
  | alternatives_match _ _ ih =>
    obtain ⟨hcl, -⟩ := List.forall_mem_cons.1 hc
    obtain ⟨hle, hn⟩ := ih (List.forall_mem_singleton.2 hcl) hstep
    exact ⟨hle, fun heq => ⟨_, List.mem_cons_self, hn heq⟩⟩
  | alternatives_next _ _ _ _ ih' =>
    obtain ⟨-, hcs⟩ := List.forall_mem_cons.1 hc
    obtain ⟨hle, hn⟩ := ih' hcs hstep
    refine ⟨hle, fun heq => ?_⟩
    obtain ⟨c, hmem, hnull⟩ := hn heq
    exact ⟨c, List.mem_cons_of_mem _ hmem, hnull⟩
  | iterations_stop _ _ _ =>
    cases hstep
    exact ⟨Nat.le_refl _, fun _ => trivial⟩
  | iterations_next _ _ _ ih ih' =>
    obtain ⟨u, rfl, -⟩ := Step.exists_of_cons_eq hstep.symm
    exact ⟨Nat.le_trans (ih hc rfl).1 (ih' hc rfl).1, fun _ => trivial⟩
  | dangles _ | body_error _ _ _ | parts_fails _ _ _ | parts_error _ _ | alternatives_nil
  | alternatives_error _ _ | iterations_stall _ _ | iterations_error _ _ => cases hstep

/-- What is not nullable advances wherever it matches. -/
theorem Closure.Standard.next_ne {c : Closure} (hrules : rules.Standard) (hc : c.Standard)
    (hn : ¬ c.Nullable rules) (h : Matches rules input c position v next) : next ≠ position := by
  obtain ⟨failures, hd⟩ := h
  exact fun heq => hn ((hd.nullable hrules (List.forall_mem_singleton.2 hc)).2 heq)

/-! ## Stalls -/

/-- Where no repetition is of a nullable body, none stalls. -/
theorem Closure.Standard.not_stalled {c : Closure} (hrules : rules.Standard) (hc : c.Standard)
    (hp : c.Always rules (Productive rules)) {failures : List Failure} {n : Nat} :
    ¬ Derives rules input (.whole c) position (.error (.zeroWidthRepetition n)) failures := by
  intro hd
  obtain ⟨c', hl, hr⟩ := hd.blames
  have hstandard := hc.always hrules c' hl
  generalize he : GrammarError.zeroWidthRepetition n = error at hr
  cases hr with
  | dangles hd => exact hd.ne_zeroWidthRepetition n he.symm
  | custom hg _ =>
    have hcustom := hstandard.grammar
    rw [hg] at hcustom
    cases hcustom
  | @stalls g _ _ hg hm =>
    have hbody : (c'.inner g).Standard := hstandard.calls hrules (.part (by simp [hg, Grammar.parts]))
    exact hbody.next_ne hrules (hp c' hl _ hg) hm rfl

end

end Descent
