import Descent.Proofs.Meaning.Calls
import Mathlib.Logic.Relator

/-!
# Following a derivation elsewhere

Two definitions may be read over different rules, at different positions of different inputs.
`Follows` says what a relation between definitions, and a relation between positions, have to keep
so that related definitions answer alike at related positions (`Derives.follow`): leaves recognize
alike, combinators are the same combinator of related parts, and what one name means is related to
what the other comes to mean, be it in several steps or in none.
-/

namespace Descent

/-! ## Steps at other positions -/

section
variable (At : Nat → Nat → Prop)

/-- The same outcome at related positions. -/
inductive Outcome.Moved : Outcome Value → Outcome Value → Prop
  | success {v : Value} {next next' : Nat} : At next next' →
      Moved (.success v next) (.success v next')
  | failure {next next' : Nat} : At next next' → Moved (.failure next) (.failure next')
  | rejected {v : Value} {next next' : Nat} : At next next' →
      Moved (.rejected v next) (.rejected v next')

/-- The same step at related positions. -/
inductive Step.Moved : Step → Step → Prop
  | ok {o o' : Outcome Value} : o.Moved At o' → Moved (.ok o) (.ok o')
  | stalled {position position' : Nat} : At position position' →
      Moved (.error (.zeroWidthRepetition position)) (.error (.zeroWidthRepetition position'))
  | error {error : GrammarError} : (∀ position, error ≠ .zeroWidthRepetition position) →
      Moved (.error error) (.error error)

/-- The same label at related positions. -/
structure Failure.Moved (failure failure' : Failure) : Prop where
  position : At failure.position failure'.position
  label : failure.label = failure'.label

end

section
variable {At : Nat → Nat → Prop}

theorem Outcome.Moved.matched_eq {o o' : Outcome Value} (h : o.Moved At o') :
    o.matched = o'.matched := by
  cases h <;> rfl

theorem Outcome.Moved.next {o o' : Outcome Value} (h : o.Moved At o') : At o.next o'.next := by
  cases h <;> assumption

theorem Outcome.Moved.flip {o o' : Outcome Value} (h : o.Moved At o') :
    o'.Moved (flip At) o := by
  cases h with
  | success hn => exact .success hn
  | failure hn => exact .failure hn
  | rejected hn => exact .rejected hn

theorem Step.Moved.flip {step step' : Step} (h : step.Moved At step') :
    step'.Moved (flip At) step := by
  cases h with
  | ok ho => exact .ok ho.flip
  | stalled hp => exact .stalled hp
  | error he => exact .error he

theorem Failure.Moved.flip {failure failure' : Failure} (h : failure.Moved At failure') :
    failure'.Moved (flip At) failure :=
  ⟨h.position, h.label.symm⟩

theorem Step.Moved.exists_of_error {error : GrammarError} {step' : Step}
    (h : Step.Moved At (.error error) step') : ∃ error', step' = .error error' := by
  cases h with
  | stalled _ | error _ => exact ⟨_, rfl⟩

theorem Step.Moved.cons {step step' : Step} (h : step.Moved At step') (v : Value) :
    (step.cons v).Moved At (step'.cons v) := by
  cases h with
  | stalled hp => exact .stalled hp
  | error he => exact .error he
  | ok ho =>
    cases ho with
    | failure hn => exact .ok (.failure hn)
    | rejected hn => exact .ok (.rejected hn)
    | @success w next next' hn =>
      cases w with
      | arr vs => exact .ok (.success hn)
      | _ => exact .ok (.success hn)

theorem Step.Moved.refl (hAt : ∀ position, At position position) (step : Step) :
    step.Moved At step := by
  match step with
  | .ok (.success _ _) => exact .ok (.success (hAt _))
  | .ok (.failure _) => exact .ok (.failure (hAt _))
  | .ok (.rejected _ _) => exact .ok (.rejected (hAt _))
  | .error (.zeroWidthRepetition _) => exact .stalled (hAt _)
  | .error (.invalidPattern _) | .error .undefinedRule | .error .detachedRule => exact .error nofun

theorem Step.Moved.eq {step step' : Step} (h : step.Moved Eq step') : step = step' := by
  cases h with
  | stalled hp => rw [hp]
  | error _ => rfl
  | ok ho => cases ho with | success hn | failure hn | rejected hn => rw [hn]

theorem Failure.Moved.eq {failure failure' : Failure} (h : failure.Moved Eq failure') :
    failure = failure' := by
  cases failure
  cases failure'
  cases h.position
  cases h.label
  rfl

/-- A combinator shapes the same outcome of its body alike. -/
theorem Reshapes.moved {position position' : Nat} {g body : Grammar} {o o₁ o' : Outcome Value}
    (h : Reshapes position g body o o₁) (ho : o.Moved At o') (hp : At position position') :
    ∃ o₁', Reshapes position' g body o' o₁' ∧ o₁.Moved At o₁' := by
  have fails : ∀ {o : Outcome Value}, o.Moved At o' → o.matched = false → o'.matched = false :=
    fun ho hm => by rw [← ho.matched_eq, hm]
  cases h with
  | optional_match => cases ho with | success hn => exact ⟨_, .optional_match, .success hn⟩
  | optional_none hm => exact ⟨_, .optional_none (fails ho hm), .success hp⟩
  | transform_match => cases ho with | success hn => exact ⟨_, .transform_match, .success hn⟩
  | transform_fails hm => exact ⟨_, .transform_fails (fails ho hm), .failure ho.next⟩
  | tryTransform_match hv =>
    cases ho with | success hn => exact ⟨_, .tryTransform_match hv, .success hn⟩
  | tryTransform_none hv => cases ho with | success => exact ⟨_, .tryTransform_none hv, .failure hp⟩
  | tryTransform_fails hm => exact ⟨_, .tryTransform_fails (fails ho hm), .failure ho.next⟩
  | tag_accepts hv => cases ho with | success hn => exact ⟨_, .tag_accepts hv, .success hn⟩
  | tag_rejects hv => cases ho with | success hn => exact ⟨_, .tag_rejects hv, .rejected hn⟩
  | tag_fails hm => exact ⟨_, .tag_fails (fails ho hm), ho⟩
  | guarded_accepts hv => cases ho with | success hn => exact ⟨_, .guarded_accepts hv, .success hn⟩
  | guarded_rejects hv => cases ho with | success => exact ⟨_, .guarded_rejects hv, .failure hp⟩
  | guarded_fails hm => exact ⟨_, .guarded_fails (fails ho hm), ho⟩

end

/-! ## Related definitions -/

/-- The relation `R` between definitions over `rules` and over `rules'` is kept by invocations, at
positions of the two inputs that `At` relates. -/
structure Follows (rules rules' : Rules) (input input' : List Char) (At : Nat → Nat → Prop)
    (R : Closure → Closure → Prop) : Prop where
  positions : Relator.BiUnique At
  recognizes : ∀ {c c' : Closure} {position position' : Nat} {step : Step}, R c c' →
    At position position' → Recognizes input position c.grammar step →
    ∃ step', Recognizes input' position' c.grammar step' ∧ step.Moved At step'
  combinator : ∀ {c c' : Closure}, R c c' → c.grammar.isName = false → c'.grammar = c.grammar
  part : ∀ {c c' : Closure} {g : Grammar}, R c c' → c.grammar.isName = false →
    g ∈ c.grammar.parts → R (c.inner g) (c'.inner g)
  means : ∀ {c c' c₁ : Closure}, R c c' → c.Means rules c₁ →
    ∃ c₁', Relation.ReflTransGen (Closure.Means rules') c' c₁' ∧ R c₁ c₁'
  dangles : ∀ {c c' : Closure} {error : GrammarError}, R c c' → c.Dangles rules error →
    c'.Dangles rules' error

/-- Tasks of related definitions. -/
inductive Task.Related (R : Closure → Closure → Prop) : Task → Task → Prop
  | whole {c c' : Closure} : R c c' → Related R (.whole c) (.whole c')
  | parts {cs cs' : List Closure} : List.Forall₂ R cs cs' → Related R (.parts cs) (.parts cs')
  | alternatives {cs cs' : List Closure} : List.Forall₂ R cs cs' →
      Related R (.alternatives cs) (.alternatives cs')
  | iterations {c c' : Closure} : R c c' → Related R (.iterations c) (.iterations c')

/-- What a name comes to mean in several steps it answers. -/
theorem derives_meaning_iff {rules : Rules} {input : List Char} {position : Nat} {step : Step}
    {failures : List Failure} {c c' : Closure}
    (h : Relation.ReflTransGen (Closure.Means rules) c c') :
    Derives rules input (.whole c) position step failures ↔
      Derives rules input (.whole c') position step failures := by
  induction h with
  | refl => rfl
  | tail _ hm ih => exact ih.trans (derives_means_iff hm)

theorem Recognizes.isName_eq {input : List Char} {position : Nat} {g : Grammar} {step : Step}
    (h : Recognizes input position g step) : g.isName = false := by
  cases h <;> rfl

theorem Grammar.isName_of_body? {g body : Grammar} (h : g.body? = some body) :
    g.isName = false := by
  cases g <;> cases h <;> rfl

section
variable {rules rules' : Rules} {input input' : List Char} {At : Nat → Nat → Prop}
  {R : Closure → Closure → Prop}

/-- The same combinator with its one related part. -/
theorem Follows.inner (hF : Follows rules rules' input input' At R) {c c' : Closure}
    {g body : Grammar} (hR : R c c') (hg : c.grammar = g) (hn : g.isName = false)
    (hb : g.parts = [body]) : c'.grammar = g ∧ R (c.inner body) (c'.inner body) := by
  subst hg
  exact ⟨hF.combinator hR hn, hF.part hR hn (by simp [hb])⟩

/-- The same combinator with all its related parts. -/
theorem Follows.all (hF : Follows rules rules' input input' At R) {c c' : Closure} {g : Grammar}
    {gs : List Grammar} (hR : R c c') (hg : c.grammar = g) (hn : g.isName = false)
    (hgs : g.parts = gs) :
    c'.grammar = g ∧ List.Forall₂ R (gs.map c.inner) (gs.map c'.inner) := by
  subst hg
  refine ⟨hF.combinator hR hn, ?_⟩
  rw [List.forall₂_map_left_iff, List.forall₂_map_right_iff]
  exact List.forall₂_same.2 fun g hg => hF.part hR hn (by rwa [hgs])

/-- The task answers the same at the position of the other input that is related, and records the
same there. -/
def Followed (rules' : Rules) (input' : List Char) (At : Nat → Nat → Prop) (position' : Nat)
    (step : Step) (failures : List Failure) (task' : Task) : Prop :=
  ∃ step' failures', Derives rules' input' task' position' step' failures' ∧
    step.Moved At step' ∧ List.Forall₂ (Failure.Moved At) failures failures'

end

/-! ## Following step by step

A task follows if the tasks that it consists of do. There is a lemma for each way in which a task is
derived, in the order of the forms of tasks. All that they need of what is followed is what has been
answered and recorded. -/

namespace Followed

section
variable {rules' : Rules} {input' : List Char} {At : Nat → Nat → Prop}
  {position position' : Nat} {step : Step} {o : Outcome Value} {error : GrammarError}
  {failures failures₁ failures₂ : List Failure} {task' : Task} {c' : Closure} {cs' : List Closure}

/-! An outcome is followed by an outcome, a match by a match, and an error by an error. -/

theorem exists_outcome (h : Followed rules' input' At position' (.ok o) failures task') :
    ∃ o' failures', Derives rules' input' task' position' (.ok o') failures' ∧ o.Moved At o' ∧
      o'.matched = o.matched ∧ List.Forall₂ (Failure.Moved At) failures failures' := by
  obtain ⟨step', failures', hd, hs, hf⟩ := h
  cases hs with
  | ok ho => exact ⟨_, failures', hd, ho, ho.matched_eq.symm, hf⟩

theorem exists_success {v : Value} {next : Nat}
    (h : Followed rules' input' At position' (.ok (.success v next)) failures task') :
    ∃ next' failures', Derives rules' input' task' position' (.ok (.success v next')) failures' ∧
      At next next' ∧ List.Forall₂ (Failure.Moved At) failures failures' := by
  obtain ⟨o', failures', hd, ho, -, hf⟩ := h.exists_outcome
  cases ho with
  | success hn => exact ⟨_, failures', hd, hn, hf⟩

theorem exists_error (h : Followed rules' input' At position' (.error error) failures task') :
    ∃ error' failures', Derives rules' input' task' position' (.error error') failures' ∧
      Step.Moved At (.error error) (.error error') ∧
      List.Forall₂ (Failure.Moved At) failures failures' := by
  obtain ⟨step', failures', hd, hs, hf⟩ := h
  obtain ⟨error', rfl⟩ := hs.exists_of_error
  exact ⟨error', failures', hd, hs, hf⟩

/-! ### Definitions -/

theorem recognizes {step' : Step} (hr : Recognizes input' position' c'.grammar step')
    (hs : step.Moved At step') : Followed rules' input' At position' step [] (.whole c') :=
  ⟨step', [], .recognizes hr, hs, .nil⟩

/-- What a name comes to mean may be several names away. -/
theorem means {c₁' : Closure} (hm : Relation.ReflTransGen (Closure.Means rules') c' c₁')
    (h : Followed rules' input' At position' step failures (.whole c₁')) :
    Followed rules' input' At position' step failures (.whole c') := by
  obtain ⟨step', failures', hd, hs, hf⟩ := h
  exact ⟨step', failures', (derives_meaning_iff hm).2 hd, hs, hf⟩

theorem dangles (hd : c'.Dangles rules' error) :
    Followed rules' input' At position' (.error error) [] (.whole c') :=
  ⟨_, [], .dangles hd, .error hd.ne_zeroWidthRepetition, .nil⟩

theorem reshapes {body : Grammar} {o₁ : Outcome Value} (hp : At position position')
    (hr : Reshapes position c'.grammar body o o₁)
    (h : Followed rules' input' At position' (.ok o) failures (.whole (c'.inner body))) :
    Followed rules' input' At position' (.ok o₁) failures (.whole c') := by
  obtain ⟨o', failures', hd, ho, -, hf⟩ := h.exists_outcome
  obtain ⟨o₁', hr', ho₁⟩ := hr.moved ho hp
  exact ⟨_, failures', .reshapes hr' hd, .ok ho₁, hf⟩

section
variable {label : String} {body : Grammar}

theorem labelled_match (hg : c'.grammar = .labelled label body) (hm : o.matched = true)
    (h : Followed rules' input' At position' (.ok o) failures (.whole (c'.inner body))) :
    Followed rules' input' At position' (.ok o) failures (.whole c') := by
  obtain ⟨o', failures', hd, ho, hm', hf⟩ := h.exists_outcome
  exact ⟨_, failures', .labelled_match hg hd (hm'.trans hm), .ok ho, hf⟩

theorem labelled_fails (hp : At position position') (hg : c'.grammar = .labelled label body)
    (hm : o.matched = false)
    (h : Followed rules' input' At position' (.ok o) failures (.whole (c'.inner body))) :
    Followed rules' input' At position' (.ok o) (failures ++ [⟨position, label⟩]) (.whole c') := by
  obtain ⟨o', failures', hd, ho, hm', hf⟩ := h.exists_outcome
  have hlabel : Failure.Moved At ⟨position, label⟩ ⟨position', label⟩ := ⟨hp, rfl⟩
  exact ⟨_, _, .labelled_fails hg hd (hm'.trans hm), .ok ho,
    List.rel_append hf (.cons hlabel .nil)⟩

end

theorem body_error {body : Grammar} (hb : c'.grammar.body? = some body)
    (h : Followed rules' input' At position' (.error error) failures (.whole (c'.inner body))) :
    Followed rules' input' At position' (.error error) failures (.whole c') := by
  obtain ⟨error', failures', hd, hs, hf⟩ := h.exists_error
  exact ⟨_, failures', .body_error hb hd, hs, hf⟩

theorem sequence {gs : List Grammar} (hg : c'.grammar = .sequence gs)
    (h : Followed rules' input' At position' step failures (.parts (gs.map c'.inner))) :
    Followed rules' input' At position' step failures (.whole c') := by
  obtain ⟨step', failures', hd, hs, hf⟩ := h
  exact ⟨step', failures', .sequence hg hd, hs, hf⟩

theorem choice {gs : List Grammar} (hg : c'.grammar = .choice gs)
    (h : Followed rules' input' At position' step failures (.alternatives (gs.map c'.inner))) :
    Followed rules' input' At position' step failures (.whole c') := by
  obtain ⟨step', failures', hd, hs, hf⟩ := h
  exact ⟨step', failures', .choice hg hd, hs, hf⟩

theorem many {body : Grammar} (hg : c'.grammar = .many body)
    (h : Followed rules' input' At position' step failures (.iterations (c'.inner body))) :
    Followed rules' input' At position' step failures (.whole c') := by
  obtain ⟨step', failures', hd, hs, hf⟩ := h
  exact ⟨step', failures', .many hg hd, hs, hf⟩

/-! ### Parts -/

theorem parts_nil (hp : At position position') :
    Followed rules' input' At position' (.ok (.success (.arr []) position)) [] (.parts []) :=
  ⟨_, [], .parts_nil, .ok (.success hp), .nil⟩

/-- The parts behind a match are followed from where it ends. -/
theorem parts_cons {v : Value} {next : Nat}
    (h : Followed rules' input' At position' (.ok (.success v next)) failures₁ (.whole c'))
    (h' : ∀ next', At next next' →
      Followed rules' input' At next' step failures₂ (.parts cs')) :
    Followed rules' input' At position' (step.cons v) (failures₁ ++ failures₂)
      (.parts (c' :: cs')) := by
  obtain ⟨next', failures₁', hd, hn, hf⟩ := h.exists_success
  obtain ⟨step', failures₂', hd', hs', hf'⟩ := h' next' hn
  exact ⟨_, _, .parts_cons hd hd', hs'.cons v, List.rel_append hf hf'⟩

theorem parts_fails (hm : o.matched = false)
    (h : Followed rules' input' At position' (.ok o) failures (.whole c')) :
    Followed rules' input' At position' (.ok (.failure o.next)) failures (.parts (c' :: cs')) := by
  obtain ⟨o', failures', hd, ho, hm', hf⟩ := h.exists_outcome
  exact ⟨_, failures', .parts_fails hd (hm'.trans hm), .ok (.failure ho.next), hf⟩

theorem parts_error (h : Followed rules' input' At position' (.error error) failures (.whole c')) :
    Followed rules' input' At position' (.error error) failures (.parts (c' :: cs')) := by
  obtain ⟨error', failures', hd, hs, hf⟩ := h.exists_error
  exact ⟨_, failures', .parts_error hd, hs, hf⟩

/-! ### Alternatives -/

theorem alternatives_nil (hp : At position position') :
    Followed rules' input' At position' (.ok (.failure position)) [] (.alternatives []) :=
  ⟨_, [], .alternatives_nil, .ok (.failure hp), .nil⟩

theorem alternatives_match (hm : o.matched = true)
    (h : Followed rules' input' At position' (.ok o) failures (.whole c')) :
    Followed rules' input' At position' (.ok o) failures (.alternatives (c' :: cs')) := by
  obtain ⟨o', failures', hd, ho, hm', hf⟩ := h.exists_outcome
  exact ⟨_, failures', .alternatives_match hd (hm'.trans hm), .ok ho, hf⟩

theorem alternatives_next (hm : o.matched = false)
    (h : Followed rules' input' At position' (.ok o) failures₁ (.whole c'))
    (h' : Followed rules' input' At position' step failures₂ (.alternatives cs')) :
    Followed rules' input' At position' step (failures₁ ++ failures₂)
      (.alternatives (c' :: cs')) := by
  obtain ⟨o', failures₁', hd, ho, hm', hf⟩ := h.exists_outcome
  obtain ⟨step', failures₂', hd', hs', hf'⟩ := h'
  exact ⟨step', _, .alternatives_next hd (hm'.trans hm) hd', hs', List.rel_append hf hf'⟩

theorem alternatives_error
    (h : Followed rules' input' At position' (.error error) failures (.whole c')) :
    Followed rules' input' At position' (.error error) failures (.alternatives (c' :: cs')) := by
  obtain ⟨error', failures', hd, hs, hf⟩ := h.exists_error
  exact ⟨_, failures', .alternatives_error hd, hs, hf⟩

/-! ### Iterations

Whether an iteration has advanced is told by its positions, so that it has on one side just if it
has on the other: here positions have to be related one to one. -/

theorem iterations_stop (hp : At position position') (hm : o.matched = false)
    (h : Followed rules' input' At position' (.ok o) failures (.whole c')) :
    Followed rules' input' At position' (.ok (.success (.arr []) position)) failures
      (.iterations c') := by
  obtain ⟨o', failures', hd, ho, hm', hf⟩ := h.exists_outcome
  exact ⟨_, failures', .iterations_stop hd (hm'.trans hm), .ok (.success hp), hf⟩

theorem iterations_next (hAt : Relator.BiUnique At) {v : Value} {next : Nat}
    (hp : At position position') (hne : next ≠ position)
    (h : Followed rules' input' At position' (.ok (.success v next)) failures₁ (.whole c'))
    (h' : ∀ next', At next next' →
      Followed rules' input' At next' step failures₂ (.iterations c')) :
    Followed rules' input' At position' (step.cons v) (failures₁ ++ failures₂)
      (.iterations c') := by
  obtain ⟨next', failures₁', hd, hn, hf⟩ := h.exists_success
  obtain ⟨step', failures₂', hd', hs', hf'⟩ := h' next' hn
  have hne' : next' ≠ position' := by
    rintro rfl
    exact hne (hAt.1 hn hp)
  exact ⟨_, _, .iterations_next hd hne' hd', hs'.cons v, List.rel_append hf hf'⟩

theorem iterations_stall (hAt : Relator.BiUnique At) {v : Value} (hp : At position position')
    (h : Followed rules' input' At position' (.ok (.success v position)) failures (.whole c')) :
    Followed rules' input' At position' (.error (.zeroWidthRepetition position)) failures
      (.iterations c') := by
  obtain ⟨next', failures', hd, hn, hf⟩ := h.exists_success
  obtain rfl : next' = position' := hAt.2 hn hp
  exact ⟨_, failures', .iterations_stall hd, .stalled hp, hf⟩

theorem iterations_error
    (h : Followed rules' input' At position' (.error error) failures (.whole c')) :
    Followed rules' input' At position' (.error error) failures (.iterations c') := by
  obtain ⟨error', failures', hd, hs, hf⟩ := h.exists_error
  exact ⟨_, failures', .iterations_error hd, hs, hf⟩

end

end Followed

section
variable {rules rules' : Rules} {input input' : List Char} {At : Nat → Nat → Prop}
  {R : Closure → Closure → Prop}

/-- Related definitions answer alike at related positions, and record alike. -/
theorem Derives.follow (hF : Follows rules rules' input input' At R) {task task' : Task}
    {position position' : Nat} {step : Step} {failures : List Failure}
    (h : Derives rules input task position step failures) (ht : task.Related R task')
    (hp : At position position') : Followed rules' input' At position' step failures task' := by
  -- What a definition answers goes by induction on its derivation, since rules are cyclic. What is
  -- left to show in each case is that the parts of related tasks are related.
  induction h generalizing task' position' with
  | recognizes hr =>
    cases ht with
    | whole hR =>
      obtain ⟨step', hr', hs⟩ := hF.recognizes hR hp hr
      have hg := hF.combinator hR hr.isName_eq
      exact .recognizes (by rwa [hg]) hs
  | means hm _ ih =>
    cases ht with
    | whole hR =>
      obtain ⟨c₁', hm', hR'⟩ := hF.means hR hm
      exact .means hm' (ih (.whole hR') hp)
  | dangles hd =>
    cases ht with
    | whole hR =>
      exact .dangles (hF.dangles hR hd)
  | reshapes hr _ ih =>
    cases ht with
    | whole hR =>
      have hb := hr.body?_eq
      obtain ⟨hg, hR'⟩ := hF.inner hR rfl (Grammar.isName_of_body? hb) (Grammar.parts_of_body? hb)
      exact .reshapes hp (by rwa [hg]) (ih (.whole hR') hp)
  | labelled_match hg _ hm ih =>
    cases ht with
    | whole hR =>
      obtain ⟨hg', hR'⟩ := hF.inner hR hg rfl rfl
      exact .labelled_match hg' hm (ih (.whole hR') hp)
  | labelled_fails hg _ hm ih =>
    cases ht with
    | whole hR =>
      obtain ⟨hg', hR'⟩ := hF.inner hR hg rfl rfl
      exact .labelled_fails hp hg' hm (ih (.whole hR') hp)
  | body_error hb _ ih =>
    cases ht with
    | whole hR =>
      obtain ⟨hg, hR'⟩ := hF.inner hR rfl (Grammar.isName_of_body? hb) (Grammar.parts_of_body? hb)
      exact .body_error (by rwa [hg]) (ih (.whole hR') hp)
  | sequence hg _ ih =>
    cases ht with
    | whole hR =>
      obtain ⟨hg', hRs⟩ := hF.all hR hg rfl rfl
      exact .sequence hg' (ih (.parts hRs) hp)
  | choice hg _ ih =>
    cases ht with
    | whole hR =>
      obtain ⟨hg', hRs⟩ := hF.all hR hg rfl rfl
      exact .choice hg' (ih (.alternatives hRs) hp)
  | many hg _ ih =>
    cases ht with
    | whole hR =>
      obtain ⟨hg', hR'⟩ := hF.inner hR hg rfl rfl
      exact .many hg' (ih (.iterations hR') hp)
  | parts_nil =>
    cases ht with
    | parts hRs =>
      cases hRs
      exact .parts_nil hp
  | parts_cons _ _ ih ih' =>
    cases ht with
    | parts hRs =>
      obtain ⟨c', cs', hR, hRs', rfl⟩ := List.forall₂_cons_left_iff.1 hRs
      exact .parts_cons (ih (.whole hR) hp) fun next' hn => ih' (.parts hRs') hn
  | parts_fails _ hm ih =>
    cases ht with
    | parts hRs =>
      obtain ⟨c', cs', hR, hRs', rfl⟩ := List.forall₂_cons_left_iff.1 hRs
      exact .parts_fails hm (ih (.whole hR) hp)
  | parts_error _ ih =>
    cases ht with
    | parts hRs =>
      obtain ⟨c', cs', hR, hRs', rfl⟩ := List.forall₂_cons_left_iff.1 hRs
      exact .parts_error (ih (.whole hR) hp)
  | alternatives_nil =>
    cases ht with
    | alternatives hRs =>
      cases hRs
      exact .alternatives_nil hp
  | alternatives_match _ hm ih =>
    cases ht with
    | alternatives hRs =>
      obtain ⟨c', cs', hR, hRs', rfl⟩ := List.forall₂_cons_left_iff.1 hRs
      exact .alternatives_match hm (ih (.whole hR) hp)
  | alternatives_next _ hm _ ih ih' =>
    cases ht with
    | alternatives hRs =>
      obtain ⟨c', cs', hR, hRs', rfl⟩ := List.forall₂_cons_left_iff.1 hRs
      exact .alternatives_next hm (ih (.whole hR) hp) (ih' (.alternatives hRs') hp)
  | alternatives_error _ ih =>
    cases ht with
    | alternatives hRs =>
      obtain ⟨c', cs', hR, hRs', rfl⟩ := List.forall₂_cons_left_iff.1 hRs
      exact .alternatives_error (ih (.whole hR) hp)
  | iterations_stop _ hm ih =>
    cases ht with
    | iterations hR =>
      exact .iterations_stop hp hm (ih (.whole hR) hp)
  | iterations_next _ hne _ ih ih' =>
    cases ht with
    | iterations hR =>
      exact .iterations_next hF.positions hp hne (ih (.whole hR) hp) fun next' hn =>
        ih' (.iterations hR) hn
  | iterations_stall _ ih =>
    cases ht with
    | iterations hR =>
      exact .iterations_stall hF.positions hp (ih (.whole hR) hp)
  | iterations_error _ ih =>
    cases ht with
    | iterations hR =>
      exact .iterations_error (ih (.whole hR) hp)

/-- Where positions stay the same, so do answers and records. -/
theorem Derives.follow_eq (hF : Follows rules rules' input input' Eq R) {task task' : Task}
    {position : Nat} {step : Step} {failures : List Failure} (ht : task.Related R task')
    (h : Derives rules input task position step failures) :
    Derives rules' input' task' position step failures := by
  obtain ⟨step', failures', hd, hs, hf⟩ := h.follow hF ht rfl
  have hf' : List.Forall₂ Eq failures failures' := hf.imp fun _ _ h => h.eq
  rw [List.forall₂_eq_eq_eq] at hf'
  rw [hs.eq, hf']
  exact hd

end

end Descent
