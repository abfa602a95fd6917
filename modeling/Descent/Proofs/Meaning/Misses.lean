import Descent.Proofs.Meaning.Calls
import Descent.Proofs.Meaning.Farthest
import Descent.Proofs.Meaning.Matches

/-!
# What is recorded where nothing matches

`Task.Misses` is that a task does not match, together with the failures recorded on the way, with
one rule for each kind of definition. A `Silent` definition holds no label, so it records nothing
(`Derives.failures_eq_nil`). Where two lists of failures come together, the farthest failure is that
of the list that gets farther (`Failure.farthest?_append_left`, `Failure.farthest?_append_right`).
-/

namespace Descent

/-! ## The farthest of two lists of failures -/

namespace Failure

variable {failures failures' : List Failure} {far : Farthest} {label : String}

theorem labelsAt_append_left {n : Nat} (h : ∀ f ∈ failures', f.position < n) :
    labelsAt n (failures ++ failures') = labelsAt n failures := by
  have : (failures'.filter fun f => f.position = n) = [] :=
    List.filter_eq_nil_iff.2 fun f hf => by simpa using Nat.ne_of_lt (h f hf)
  simp [labelsAt, this]

theorem labelsAt_append_right {n : Nat} (h : ∀ f ∈ failures, f.position < n) :
    labelsAt n (failures ++ failures') = labelsAt n failures' := by
  have : (failures.filter fun f => f.position = n) = [] :=
    List.filter_eq_nil_iff.2 fun f hf => by simpa using Nat.ne_of_lt (h f hf)
  simp [labelsAt, this]

@[simp] theorem farthest?_singleton (failure : Failure) :
    farthest? [failure] = some ⟨failure.position, [failure.label]⟩ := by
  simp [farthest?, labelsAt, List.eraseDups_cons]

theorem le_of_farthest? (h : farthest? failures = some far) :
    ∀ f ∈ failures, f.position ≤ far.position :=
  (farthest?_eq_some_iff.1 h).2.1

/-- Nearer failures behind do not count. -/
theorem farthest?_append_left (h : farthest? failures = some far)
    (hn : ∀ f ∈ failures', f.position < far.position) :
    farthest? (failures ++ failures') = some far := by
  obtain ⟨n, labels⟩ := far
  obtain ⟨⟨f, hf, hfn⟩, hle, rfl⟩ := farthest?_eq_some_iff.1 h
  refine farthest?_eq_some_iff.2 ⟨⟨f, List.mem_append_left _ hf, hfn⟩, fun g hg => ?_,
    (labelsAt_append_left hn).symm⟩
  rcases List.mem_append.1 hg with hg | hg
  · exact hle g hg
  · exact Nat.le_of_lt (hn g hg)

/-- Nearer failures in front do not count. -/
theorem farthest?_append_right (hn : ∀ f ∈ failures, f.position < far.position)
    (h : farthest? failures' = some far) : farthest? (failures ++ failures') = some far := by
  obtain ⟨n, labels⟩ := far
  obtain ⟨⟨f, hf, hfn⟩, hle, rfl⟩ := farthest?_eq_some_iff.1 h
  refine farthest?_eq_some_iff.2 ⟨⟨f, List.mem_append_right _ hf, hfn⟩, fun g hg => ?_,
    (labelsAt_append_right hn).symm⟩
  rcases List.mem_append.1 hg with hg | hg
  · exact Nat.le_of_lt (hn g hg)
  · exact hle g hg

/-- A new label at the farthest position is added. -/
theorem farthest?_append_label {n : Nat} {labels : List String}
    (h : farthest? failures = some ⟨n, labels⟩) (hl : label ∉ labels) :
    farthest? (failures ++ [⟨n, label⟩]) = some ⟨n, labels ++ [label]⟩ := by
  have htracker : (Tracker.mk (some ⟨n, labels⟩)).farthest? = farthest? failures := h.symm
  have hrecord := Tracker.farthest?_record htracker ⟨n, label⟩
  rw [← hrecord]
  simp [Tracker.record, hl]

end Failure

section
variable {rules : Rules} {input : List Char} {position : Nat}

/-! ## Definitions without labels -/

/-- Whether the definition labels another one. -/
def Grammar.isLabelled : Grammar → Bool
  | labelled _ _ => true
  | _ => false

/-- No label and no name stands in the definition. -/
def Grammar.Silent (g : Grammar) : Prop := g.Every fun g => g.isName = false ∧ g.isLabelled = false

theorem Grammar.Silent.body {g body : Grammar} (h : g.Silent) (hb : g.body? = some body) :
    body.Silent :=
  h.part (by simp [Grammar.parts_of_body? hb])

theorem silent_map_inner {c : Closure} {gs : List Grammar} (h : c.grammar.Silent)
    (hg : c.grammar.parts = gs) : ∀ c' ∈ gs.map c.inner, c'.grammar.Silent := by
  intro c' hc'
  obtain ⟨g, hg', rfl⟩ := List.mem_map.1 hc'
  exact h.part (by rwa [hg])

/-- A silent definition records nothing. -/
theorem Derives.failures_eq_nil {task : Task} {step : Step} {failures : List Failure}
    (h : Derives rules input task position step failures)
    (hc : ∀ c ∈ task.closures, c.grammar.Silent) : failures = [] := by
  induction h with
  | recognizes _ | dangles _ | parts_nil | alternatives_nil => rfl
  | means hm _ _ =>
    have hname := (hc _ List.mem_cons_self).here.1
    cases hm <;> cases hname
  | labelled_match hg _ _ _ | labelled_fails hg _ _ _ =>
    have hlabelled := (hc _ List.mem_cons_self).here.2
    rw [hg] at hlabelled
    cases hlabelled
  | reshapes hr _ ih =>
    have hbody := (hc _ List.mem_cons_self).body hr.body?_eq
    exact ih (List.forall_mem_singleton.2 hbody)
  | body_error hg _ ih =>
    have hbody := (hc _ List.mem_cons_self).body hg
    exact ih (List.forall_mem_singleton.2 hbody)
  | sequence hg _ ih | choice hg _ ih =>
    exact ih (silent_map_inner (hc _ List.mem_cons_self) (by rw [hg]; rfl))
  | many hg _ ih =>
    refine ih (List.forall_mem_singleton.2 ((hc _ List.mem_cons_self).part ?_))
    rw [hg]
    exact List.mem_cons_self
  | parts_cons _ _ ih ih' | alternatives_next _ _ _ ih ih' =>
    obtain ⟨hfirst, hrest⟩ := List.forall_mem_cons.1 hc
    rw [ih (List.forall_mem_singleton.2 hfirst), ih' hrest]
    rfl
  | iterations_next _ _ _ ih ih' => rw [ih hc, ih' hc]; rfl
  | parts_fails _ _ ih | parts_error _ ih | alternatives_match _ _ ih | alternatives_error _ ih =>
    exact ih (List.forall_mem_singleton.2 (hc _ List.mem_cons_self))
  | iterations_stop _ _ ih | iterations_stall _ ih | iterations_error _ ih => exact ih hc

/-! ## What does not match -/

/-- The task does not match, and these failures are recorded. -/
def Task.Misses (rules : Rules) (input : List Char) (task : Task) (position : Nat)
    (failures : List Failure) : Prop :=
  ∃ o, Derives rules input task position (.ok o) failures ∧ o.matched = false

namespace Task.Misses

variable {c c' : Closure} {cs : List Closure} {failures failures' : List Failure} {d : Nat}
  {ρ : List (String × Closure)} {g : Grammar}

theorem means (hm : c.Means rules c') (h : Misses rules input (.whole c') position failures) :
    Misses rules input (.whole c) position failures := by
  obtain ⟨o, hd, ho⟩ := h
  exact ⟨o, .means hm hd, ho⟩

theorem transform {f : Value → Value}
    (h : Misses rules input (.whole ⟨g, d, ρ⟩) position failures) :
    Misses rules input (.whole ⟨.transform f g, d, ρ⟩) position failures := by
  obtain ⟨o, hd, ho⟩ := h
  exact ⟨_, .reshapes (.transform_fails ho) hd, rfl⟩

theorem labelled {label : String} (h : Misses rules input (.whole ⟨g, d, ρ⟩) position failures) :
    Misses rules input (.whole ⟨.labelled label g, d, ρ⟩) position
      (failures ++ [⟨position, label⟩]) := by
  obtain ⟨o, hd, ho⟩ := h
  exact ⟨o, .labelled_fails rfl hd ho, ho⟩

theorem sequence {gs : List Grammar}
    (h : Misses rules input (.parts (gs.map (Closure.mk · d ρ))) position failures) :
    Misses rules input (.whole ⟨.sequence gs, d, ρ⟩) position failures := by
  obtain ⟨o, hd, ho⟩ := h
  exact ⟨o, .sequence rfl hd, ho⟩

theorem choice {gs : List Grammar}
    (h : Misses rules input (.alternatives (gs.map (Closure.mk · d ρ))) position failures) :
    Misses rules input (.whole ⟨.choice gs, d, ρ⟩) position failures := by
  obtain ⟨o, hd, ho⟩ := h
  exact ⟨o, .choice rfl hd, ho⟩

theorem parts_here (h : Misses rules input (.whole c) position failures) :
    Misses rules input (.parts (c :: cs)) position failures := by
  obtain ⟨o, hd, ho⟩ := h
  exact ⟨_, .parts_fails hd ho, rfl⟩

theorem parts_next {v : Value} {next : Nat}
    (hm : Derives rules input (.whole c) position (.ok (.success v next)) failures)
    (h : Misses rules input (.parts cs) next failures') :
    Misses rules input (.parts (c :: cs)) position (failures ++ failures') := by
  obtain ⟨o, hd, ho⟩ := h
  have hcons : Step.cons v (.ok o) = .ok o := by
    cases o <;> first | rfl | cases ho
  refine ⟨o, ?_, ho⟩
  rw [← hcons]
  exact .parts_cons hm hd

theorem alternatives_nil : Misses rules input (.alternatives []) position [] :=
  ⟨_, .alternatives_nil, rfl⟩

theorem alternatives_next (h : Misses rules input (.whole c) position failures)
    (h' : Misses rules input (.alternatives cs) position failures') :
    Misses rules input (.alternatives (c :: cs)) position (failures ++ failures') := by
  obtain ⟨o, hd, ho⟩ := h
  obtain ⟨o', hd', ho'⟩ := h'
  exact ⟨o', .alternatives_next hd ho hd', ho'⟩

end Task.Misses

/-! ## Labelled definitions that are silent otherwise -/

variable {d next : Nat} {ρ : List (String × Closure)} {g : Grammar} {label : String} {v : Value}

/-- Where it matches, nothing is recorded. -/
theorem Matches.derives_labelled (hs : g.Silent)
    (h : Matches rules input ⟨g, d, ρ⟩ position v next) :
    Derives rules input (.whole ⟨.labelled label g, d, ρ⟩) position (.ok (.success v next)) [] := by
  obtain ⟨failures, hd⟩ := h
  obtain rfl := hd.failures_eq_nil (List.forall_mem_singleton.2 hs)
  exact .labelled_match rfl hd rfl

/-- Where it does not match, its label is recorded and nothing else. -/
theorem Fails.misses_labelled (hs : g.Silent) (h : Fails rules input ⟨g, d, ρ⟩ position) :
    Task.Misses rules input (.whole ⟨.labelled label g, d, ρ⟩) position [⟨position, label⟩] := by
  obtain ⟨o, failures, hd, ho⟩ := h
  obtain rfl := hd.failures_eq_nil (List.forall_mem_singleton.2 hs)
  exact Task.Misses.labelled ⟨o, hd, ho⟩

end

end Descent
