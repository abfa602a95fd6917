import Descent.Proofs.Meaning.Build
import Descent.Proofs.Meaning.Invert
import Descent.Proofs.Parser.Depth

/-!
# Running a parser is deriving its meaning

A parser that was built from a definition answers what the definition answers, in every sound store:
each answer of a run is derived (`exists_derives_of_run`), and each derived answer is that of a run
(`performed_of_derives`). Both say what the run leaves behind: a sound store again, in which just
the labels of the derivation have been recorded (`After`).

The first goes by the depth of the run, the second by the derivation. Neither can go by the
definition, since rules are cyclic.
-/

namespace Descent

/-! ## Records -/

namespace Tracker

@[simp] theorem recordAll_nil (tracker : Tracker) : tracker.recordAll [] = tracker := rfl

@[simp] theorem recordAll_append (failures failures' : List Failure) (tracker : Tracker) :
    tracker.recordAll (failures ++ failures') = (tracker.recordAll failures).recordAll failures' :=
  List.foldl_append

@[simp] theorem recordAll_singleton (failure : Failure) (tracker : Tracker) :
    tracker.recordAll [failure] = tracker.record failure.position failure.label := rfl

end Tracker

/-- What a run leaves behind in which the failures are recorded. -/
structure After (rules : Rules) (L : Legend) (store : Store) (failures : List Failure)
    (L' : Legend) (store' : Store) : Prop where
  le : L.Le L'
  sound : Sound rules [] L' store'
  tracker : store'.tracker = store.tracker.recordAll failures

section
variable {rules : Rules} {L L' L'' : Legend} {store store' store'' : Store}
  {failures failures' : List Failure}

theorem After.refl (h : Sound rules [] L store) : After rules L store [] L store :=
  ⟨.refl L, h, rfl⟩

theorem After.trans (h : After rules L store failures L' store')
    (h' : After rules L' store' failures' L'' store'') :
    After rules L store (failures ++ failures') L'' store'' :=
  ⟨h.le.trans h'.le, h'.sound, by rw [h'.tracker, h.tracker, Tracker.recordAll_append]⟩

theorem After.expect (h : After rules L store failures L' store') (position : Nat)
    (label : String) :
    After rules L store (failures ++ [⟨position, label⟩]) L' (store'.expect position label) :=
  ⟨h.le, h.sound.congr rfl rfl, by
    rw [Tracker.recordAll_append, ← h.tracker, Tracker.recordAll_singleton]; rfl⟩

/-- Events are not recorded. -/
theorem After.report (h : After rules L store failures L' store') (event : Event) :
    After rules L store failures L' (store'.report event) :=
  ⟨h.le, h.sound.congr rfl rfl, h.tracker⟩

end

/-! ## Values so far -/

/-- Puts values in front of those of a match, the latest first. -/
def Step.consAll (done : List Value) (step : Step) : Step :=
  done.foldl (fun step v => step.cons v) step

namespace Step

@[simp] theorem consAll_nil (step : Step) : step.consAll [] = step := rfl

theorem consAll_cons (v : Value) (done : List Value) (step : Step) :
    step.consAll (v :: done) = (step.cons v).consAll done := rfl

@[simp] theorem consAll_error (done : List Value) (error : GrammarError) :
    consAll done (.error error) = .error error := by
  induction done with
  | nil => rfl
  | cons v done ih => exact ih

@[simp] theorem consAll_failure (done : List Value) (next : Nat) :
    consAll done (.ok (.failure next)) = .ok (.failure next) := by
  induction done with
  | nil => rfl
  | cons v done ih => exact ih

theorem consAll_arr (done vs : List Value) (next : Nat) :
    consAll done (.ok (.success (.arr vs) next)) =
      .ok (.success (.arr (done.reverse ++ vs)) next) := by
  induction done generalizing vs with
  | nil => rfl
  | cons v done ih =>
    rw [consAll_cons, cons, ih, List.reverse_cons, List.append_assoc, List.singleton_append]

end Step

/-! ## Names -/

section
variable {rules : Rules}

/-- The parser `p` stands for a cell or a slot that was made for `c`. -/
inductive Refers (L : Legend) (E : List Nat) : Parser → Closure → Prop
  | deferred {i : Nat} {e : Entry} : L.cells[i]? = some (some e) → e.within ⊆ E →
      Refers L E (.deferred i) e.closure
  | rule {j : Nat} {e : Entry} : L.slots[j]? = some (some e) → e.within ⊆ E →
      Refers L E (.rule j) e.closure
  | handle {j : Nat} {e : Entry} : L.slots[j]? = some (some e) → j ∈ E →
      Refers L E (.handle j) e.closure

/-- To invoke a parser that stands for a cell or a slot is to invoke what is there. -/
theorem Refers.run {L : Legend} {E : List Nat} {p : Parser} {c : Closure} {store : Store}
    (h : Refers L E p c) (hs : Sound rules [] L store) (input : List Char) :
    ∃ L' E' store' q, After rules L store [] L' store' ∧ Filled rules L' E' q c ∧
      ∀ fuel position,
        p.run input (fuel + 1) position store = q.run input fuel position store' := by
  cases h with
  | @deferred i e hi _ =>
    obtain ⟨L', hL, hs', hf, ht⟩ := hs.resolve hi
    exact ⟨L', e.within, _, _, ⟨hL, hs', ht⟩, hf, fun _ _ => rfl⟩
  | @rule j e hj _ =>
    obtain ⟨q, hq, hf⟩ := hs.body hj
    exact ⟨L, _, store, q, .refl hs, hf, fun _ _ => by simp only [Parser.run, Parser.runBody, hq]⟩
  | @handle j e hj _ =>
    obtain ⟨q, hq, hf⟩ := hs.body hj
    exact ⟨L, _, store, q, .refl hs, hf, fun _ _ => by simp only [Parser.run, Parser.runBody, hq]⟩

/-- What the parser of a definition looks like, unless the definition is a name or put off. -/
def Shaped (rules : Rules) (L : Legend) (E : List Nat) (p : Parser) (c : Closure) : Prop :=
  match c.grammar with
  | .literal text => p = .literal text
  | .charClass set negate => p = .charClass set negate
  | .pattern expression ignoreCase =>
    ∃ q, Pattern.compile? expression ignoreCase = some q ∧ p = .pattern q
  | .custom answer => p = .custom answer
  | .sequence gs => ∃ ps, p = .sequence ps ∧ List.Forall₂ (Built rules L E) ps (gs.map c.inner)
  | .choice gs => ∃ ps, p = .choice ps ∧ List.Forall₂ (Built rules L E) ps (gs.map c.inner)
  | .many g => ∃ q, p = .many q ∧ Built rules L E q (c.inner g)
  | .optional g => ∃ q, p = .optional q ∧ Built rules L E q (c.inner g)
  | .transform f g => ∃ q, p = .transform f q ∧ Built rules L E q (c.inner g)
  | .tryTransform f g => ∃ q, p = .tryTransform f q ∧ Built rules L E q (c.inner g)
  | .tag accepts g => ∃ q, p = .tag accepts q ∧ Built rules L E q (c.inner g)
  | .guarded accepts g => ∃ q, p = .guarded accepts q ∧ Built rules L E q (c.inner g)
  | .labelled label g => ∃ q, p = .labelled label q ∧ Built rules L E q (c.inner g)
  | _ => True

/-- The parser of a definition that means another is built from the other, or refers to a place for
it. -/
theorem Built.refers_or_built {L : Legend} {E : List Nat} {p : Parser} {c c' : Closure}
    (h : Built rules L E p c) (hm : c.Means rules c') : Refers L E p c ∨ Built rules L E p c' := by
  cases h with
  | deferred hi hw => exact .inl (.deferred hi hw)
  | rule hj hw => exact .inl (.rule hj hw)
  | handle hj hE => exact .inl (.handle hj hE)
  | means hm' hb => exact .inr (hm.unique hm' ▸ hb)
  | dangles hd => exact absurd hd hm.not_dangles
  | literal hg | charClass hg | custom hg | pattern hg | sequence hg | choice hg | many hg
  | optional hg | transform hg | tryTransform hg | tag hg | guarded hg | labelled hg =>
    cases hm <;> cases hg

theorem Built.refers_or_eq_raise {L : Legend} {E : List Nat} {p : Parser} {c : Closure}
    {error : GrammarError} (h : Built rules L E p c) (hd : c.Dangles rules error) :
    Refers L E p c ∨ p = .raise error := by
  cases h with
  | deferred hi hw => exact .inl (.deferred hi hw)
  | rule hj hw => exact .inl (.rule hj hw)
  | handle hj hE => exact .inl (.handle hj hE)
  | means hm _ => exact absurd hd hm.not_dangles
  | dangles hd' => exact .inr (by rw [hd.unique hd'])
  | literal hg | charClass hg | custom hg | pattern hg | sequence hg | choice hg | many hg
  | optional hg | transform hg | tryTransform hg | tag hg | guarded hg | labelled hg =>
    cases hd <;> cases hg

theorem Closure.Means.shaped {L : Legend} {E : List Nat} {p : Parser} {c c' : Closure}
    (h : c.Means rules c') : Shaped rules L E p c := by
  cases h <;> trivial

theorem Closure.Dangles.shaped {L : Legend} {E : List Nat} {p : Parser} {c : Closure}
    {error : GrammarError} (h : c.Dangles rules error) : Shaped rules L E p c := by
  cases h <;> trivial

theorem Refers.shaped {L : Legend} {E : List Nat} {p : Parser} {c : Closure} {store : Store}
    (h : Refers L E p c) (hs : Sound rules [] L store) : Shaped rules L E p c := by
  obtain ⟨L', E', store', q, -, hf, -⟩ := h.run hs []
  cases hf with
  | means hm => exact hm.shaped
  | dangles hd => exact hd.shaped

/-- The parsers of several definitions with the same names. -/
theorem forall₂_built {L : Legend} {E : List Nat} {c : Closure} {ps : List Parser}
    {gs : List Grammar} (hl : ps.length = gs.length)
    (h : ∀ (i : Nat) p g, ps[i]? = some p → gs[i]? = some g → Built rules L E p (c.inner g)) :
    List.Forall₂ (Built rules L E) ps (gs.map c.inner) := by
  rw [List.forall₂_map_right_iff, List.forall₂_iff_get]
  exact ⟨hl, fun i hp hg => h i _ _ (by simp) (by simp)⟩

/-- A parser is shaped like its definition, or refers to one, or is that of another definition. -/
theorem Built.shaped {L : Legend} {E : List Nat} {p : Parser} {c : Closure} {store : Store}
    (h : Built rules L E p c) (hs : Sound rules [] L store) : Shaped rules L E p c := by
  cases h with
  | literal hg | charClass hg | custom hg => simp only [Shaped, hg]
  | pattern hg hq => simpa only [Shaped, hg] using ⟨_, hq, rfl⟩
  | sequence hg hl hb => simpa only [Shaped, hg] using ⟨_, rfl, forall₂_built hl hb⟩
  | choice hg hl hb => simpa only [Shaped, hg] using ⟨_, rfl, forall₂_built hl hb⟩
  | many hg hb | optional hg hb | transform hg hb | tryTransform hg hb | tag hg hb
  | guarded hg hb | labelled hg hb => simpa only [Shaped, hg] using ⟨_, rfl, hb⟩
  | deferred hi hw => exact (Refers.deferred hi hw).shaped hs
  | rule hj hw => exact (Refers.rule hj hw).shaped hs
  | handle hj hm => exact (Refers.handle hj hm).shaped hs
  | means hm _ => exact hm.shaped
  | dangles hd => exact hd.shaped

end

/-! ## What a run answers is derived -/

section
variable {rules : Rules} {input : List Char}

/-- What `invoke` answers for the parser of a definition is derived for the definition. -/
def Derived (rules : Rules) (input : List Char) (invoke : Parser → Invoke) : Prop :=
  ∀ (L : Legend) (E : List Nat) (p : Parser) (c : Closure) (position : Nat) (store : Store)
    (step : Step) (store' : Store),
    Built rules L E p c → Sound rules [] L store →
    invoke p position store = some (step, store') →
    ∃ L' failures, After rules L store failures L' store' ∧
      Derives rules input (.whole c) position step failures

theorem Result.exists_of_andThen {r : Result} {next : Outcome Value → Store → Result}
    {a : Step × Store} (h : r.andThen next = some a) :
    (∃ error, r = some (.error error, a.2) ∧ a.1 = .error error) ∨
      ∃ o store, r = some (.ok o, store) ∧ next o store = some a := by
  match r with
  | none => cases h
  | some (.error error, store) => cases h; exact .inl ⟨error, rfl, rfl⟩
  | some (.ok o, store) => exact .inr ⟨o, store, rfl, h⟩

section
variable {invoke : Parser → Invoke} (hi : Derived rules input invoke)
include hi

theorem exists_derives_of_runSequence {E : List Nat} {ps : List Parser} {cs : List Closure}
    {L : Legend} {done : List Value} {position : Nat} {store : Store} {step : Step}
    {store' : Store} (hb : List.Forall₂ (Built rules L E) ps cs) (hs : Sound rules [] L store)
    (h : Parser.runSequence invoke ps done position store = some (step, store')) :
    ∃ L' failures step₀, After rules L store failures L' store' ∧
      Derives rules input (.parts cs) position step₀ failures ∧ step = step₀.consAll done := by
  induction ps generalizing cs L done position store with
  | nil =>
    cases hb
    cases h
    exact ⟨L, [], _, .refl hs, .parts_nil, by rw [Step.consAll_arr, List.append_nil]⟩
  | cons p ps ih =>
    obtain ⟨c, cs, hp, hps, rfl⟩ := List.forall₂_cons_left_iff.1 hb
    obtain ⟨error, h, rfl⟩ | ⟨o, store₁, h, h'⟩ := Result.exists_of_andThen h
    · obtain ⟨L', failures, ha, hd⟩ := hi _ _ _ _ _ _ _ _ hp hs h
      exact ⟨L', failures, _, ha, .parts_error hd, by rw [Step.consAll_error]⟩
    · obtain ⟨L₁, failures, ha, hd⟩ := hi _ _ _ _ _ _ _ _ hp hs h
      cases o with
      | success v next =>
        obtain ⟨L', failures', step₀, ha', hd', rfl⟩ :=
          ih (hps.imp fun _ _ hb => hb.mono ha.le (List.Subset.refl _)) ha.sound h'
        exact ⟨L', _, _, ha.trans ha', .parts_cons hd hd', rfl⟩
      | failure next =>
        cases h'
        exact ⟨L₁, failures, _, ha, .parts_fails hd rfl, by rw [Step.consAll_failure]; rfl⟩
      | rejected v next =>
        cases h'
        exact ⟨L₁, failures, _, ha, .parts_fails hd rfl, by rw [Step.consAll_failure]; rfl⟩

theorem exists_derives_of_runChoice {E : List Nat} {ps : List Parser} {cs : List Closure}
    {L : Legend} {position : Nat} {store : Store} {step : Step} {store' : Store}
    (hb : List.Forall₂ (Built rules L E) ps cs) (hs : Sound rules [] L store)
    (h : Parser.runChoice invoke ps position store = some (step, store')) :
    ∃ L' failures, After rules L store failures L' store' ∧
      Derives rules input (.alternatives cs) position step failures := by
  induction ps generalizing cs L store with
  | nil =>
    cases hb
    cases h
    exact ⟨L, [], .refl hs, .alternatives_nil⟩
  | cons p ps ih =>
    obtain ⟨c, cs, hp, hps, rfl⟩ := List.forall₂_cons_left_iff.1 hb
    obtain ⟨error, h, rfl⟩ | ⟨o, store₁, h, h'⟩ := Result.exists_of_andThen h
    · obtain ⟨L', failures, ha, hd⟩ := hi _ _ _ _ _ _ _ _ hp hs h
      exact ⟨L', failures, ha, .alternatives_error hd⟩
    · obtain ⟨L₁, failures, ha, hd⟩ := hi _ _ _ _ _ _ _ _ hp hs h
      split at h'
      · rename_i hm
        cases h'
        exact ⟨L₁, failures, ha, .alternatives_match hd hm⟩
      · rename_i hm
        obtain ⟨L', failures', ha', hd'⟩ :=
          ih (hps.imp fun _ _ hb => hb.mono ha.le (List.Subset.refl _)) ha.sound h'
        exact ⟨L', _, ha.trans ha', .alternatives_next hd (by simpa using hm) hd'⟩

theorem exists_derives_of_runMany {E : List Nat} {p : Parser} {c : Closure} {fuel : Nat}
    {L : Legend} {done : List Value} {position : Nat} {store : Store} {step : Step}
    {store' : Store} (hb : Built rules L E p c) (hs : Sound rules [] L store)
    (h : Parser.runMany (invoke p) fuel done position store = some (step, store')) :
    ∃ L' failures step₀, After rules L store failures L' store' ∧
      Derives rules input (.iterations c) position step₀ failures ∧ step = step₀.consAll done := by
  induction fuel generalizing L done position store with
  | zero => cases h
  | succ fuel ih =>
    obtain ⟨error, h, rfl⟩ | ⟨o, store₁, h, h'⟩ := Result.exists_of_andThen h
    · obtain ⟨L', failures, ha, hd⟩ := hi _ _ _ _ _ _ _ _ hb hs h
      exact ⟨L', failures, _, ha, .iterations_error hd, by rw [Step.consAll_error]⟩
    · obtain ⟨L₁, failures, ha, hd⟩ := hi _ _ _ _ _ _ _ _ hb hs h
      have stop : ∀ o : Outcome Value, o.matched = false →
          Derives rules input (.whole c) position (.ok o) failures →
          ∃ step₀, Derives rules input (.iterations c) position step₀ failures ∧
            Except.ok (.success (.arr done.reverse) position) = step₀.consAll done :=
        fun o ho hd => ⟨_, .iterations_stop hd ho, by rw [Step.consAll_arr, List.append_nil]⟩
      cases o with
      | success v next =>
        dsimp only at h'
        split at h'
        · rename_i hn
          subst hn
          cases h'
          exact ⟨L₁, failures, _, ha.report _, .iterations_stall hd, by rw [Step.consAll_error]⟩
        · rename_i hn
          obtain ⟨L', failures', step₀, ha', hd', rfl⟩ :=
            ih (hb.mono ha.le (List.Subset.refl _)) ha.sound h'
          exact ⟨L', _, _, ha.trans ha', .iterations_next hd hn hd', rfl⟩
      | failure next =>
        cases h'
        obtain ⟨step₀, hd', he⟩ := stop _ rfl hd
        exact ⟨L₁, failures, step₀, ha, hd', he⟩
      | rejected v next =>
        cases h'
        obtain ⟨step₀, hd', he⟩ := stop _ rfl hd
        exact ⟨L₁, failures, step₀, ha, hd', he⟩

/-- The combinators that change the outcome of one body. -/
theorem exists_derives_of_mapOutcome {L : Legend} {E : List Nat} {q : Parser} {c : Closure}
    {g : Grammar} {f : Outcome Value → Outcome Value} {position : Nat} {store : Store}
    {step : Step} {store' : Store} (hg : c.grammar.body? = some g)
    (hr : ∀ o, Reshapes position c.grammar g o (f o))
    (hb : Built rules L E q (c.inner g)) (hs : Sound rules [] L store)
    (h : (invoke q position store).mapOutcome f = some (step, store')) :
    ∃ L' failures, After rules L store failures L' store' ∧
      Derives rules input (.whole c) position step failures := by
  obtain ⟨error, h, rfl⟩ | ⟨o, store₁, h, h'⟩ := Result.exists_of_andThen h
  · obtain ⟨L', failures, ha, hd⟩ := hi _ _ _ _ _ _ _ _ hb hs h
    exact ⟨L', failures, ha, .body_error hg hd⟩
  · cases h'
    obtain ⟨L', failures, ha, hd⟩ := hi _ _ _ _ _ _ _ _ hb hs h
    exact ⟨L', failures, ha, .reshapes (hr o) hd⟩

theorem exists_derives_of_recordFailure {L : Legend} {E : List Nat} {q : Parser} {c : Closure}
    {g : Grammar} {label : String} {position : Nat} {store : Store} {step : Step} {store' : Store}
    (hg : c.grammar = .labelled label g) (hb : Built rules L E q (c.inner g))
    (hs : Sound rules [] L store)
    (h : Parser.recordFailure label position (invoke q position store) = some (step, store')) :
    ∃ L' failures, After rules L store failures L' store' ∧
      Derives rules input (.whole c) position step failures := by
  obtain ⟨error, hq, rfl⟩ | ⟨o, store₁, hq, h'⟩ := Result.exists_of_andThen h
  · obtain ⟨L', failures, ha, hd⟩ := hi _ _ _ _ _ _ _ _ hb hs hq
    exact ⟨L', failures, ha, .body_error (by rw [hg]; rfl) hd⟩
  · cases h'
    obtain ⟨L', failures, ha, hd⟩ := hi _ _ _ _ _ _ _ _ hb hs hq
    cases hm : o.matched with
    | true => exact ⟨L', failures, ha, .labelled_match hg hd hm⟩
    | false => exact ⟨L', _, ha.expect position label, .labelled_fails hg hd hm⟩

end

theorem exists_derives_of_refers {fuel : Nat} (hi : Derived rules input (Parser.run input fuel))
    {L : Legend} {E : List Nat} {p : Parser} {c : Closure} {position : Nat} {store : Store}
    {step : Step} {store' : Store} (hr : Refers L E p c) (hs : Sound rules [] L store)
    (h : p.run input (fuel + 1) position store = some (step, store')) :
    ∃ L' failures, After rules L store failures L' store' ∧
      Derives rules input (.whole c) position step failures := by
  obtain ⟨L₁, E₁, store₁, q, ha, hf, hrun⟩ := hr.run hs input
  obtain ⟨L', failures, ha', hd⟩ := hi _ _ _ _ _ _ _ _ hf.built ha.sound (by rw [← hrun, h])
  exact ⟨L', failures, ha.trans ha', hd⟩

/-- Each answer of a run is derived. -/
theorem exists_derives_of_run (fuel : Nat) : Derived rules input (Parser.run input fuel) := by
  induction fuel with
  | zero => intro _ _ _ _ _ _ _ _ _ _ h; cases h
  | succ fuel ih =>
    intro L E p c position store step store' hb hs h
    -- a parser built from what a name means is invoked no deeper than the name
    induction hb with
    | literal hg =>
      cases h
      exact ⟨L, [], .refl hs, .recognizes (by rw [hg]; exact recognizes_literal_iff.2 rfl)⟩
    | charClass hg =>
      cases h
      exact ⟨L, [], .refl hs, .recognizes (by rw [hg]; exact recognizes_charClass_iff.2 rfl)⟩
    | pattern hg hq =>
      cases h
      exact ⟨L, [], .refl hs, .recognizes (by rw [hg]; exact (recognizes_pattern_iff hq).2 rfl)⟩
    | custom hg =>
      cases h
      exact ⟨L, [], .refl hs, .recognizes (by rw [hg]; exact recognizes_custom_iff.2 rfl)⟩
    | sequence hg hl hps =>
      obtain ⟨L', failures, step₀, ha, hd, rfl⟩ :=
        exists_derives_of_runSequence ih (forall₂_built hl hps) hs h
      exact ⟨L', failures, ha, .sequence hg hd⟩
    | choice hg hl hps =>
      obtain ⟨L', failures, ha, hd⟩ := exists_derives_of_runChoice ih (forall₂_built hl hps) hs h
      exact ⟨L', failures, ha, .choice hg hd⟩
    | many hg hb =>
      obtain ⟨L', failures, step₀, ha, hd, rfl⟩ := exists_derives_of_runMany ih hb hs h
      exact ⟨L', failures, ha, .many hg hd⟩
    | optional hg hb =>
      exact exists_derives_of_mapOutcome ih (by rw [hg]; rfl)
        (fun _ => by rw [hg]; exact reshapes_optional_iff.2 rfl) hb hs h
    | transform hg hb =>
      exact exists_derives_of_mapOutcome ih (by rw [hg]; rfl)
        (fun _ => by rw [hg]; exact reshapes_transform_iff.2 rfl) hb hs h
    | tryTransform hg hb =>
      exact exists_derives_of_mapOutcome ih (by rw [hg]; rfl)
        (fun _ => by rw [hg]; exact reshapes_tryTransform_iff.2 rfl) hb hs h
    | tag hg hb =>
      exact exists_derives_of_mapOutcome ih (by rw [hg]; rfl)
        (fun _ => by rw [hg]; exact reshapes_tag_iff.2 rfl) hb hs h
    | guarded hg hb =>
      exact exists_derives_of_mapOutcome ih (by rw [hg]; rfl)
        (fun _ => by rw [hg]; exact reshapes_guarded_iff.2 rfl) hb hs h
    | labelled hg hb => exact exists_derives_of_recordFailure ih hg hb hs h
    | deferred hi hw =>
      exact exists_derives_of_refers ih (.deferred hi hw) hs h
    | rule hj hw => exact exists_derives_of_refers ih (.rule hj hw) hs h
    | handle hj hm => exact exists_derives_of_refers ih (.handle hj hm) hs h
    | means hm _ ihb =>
      obtain ⟨L', failures, ha, hd⟩ := ihb h
      exact ⟨L', failures, ha, .means hm hd⟩
    | dangles hd =>
      cases h
      exact ⟨L, [], .refl hs, .dangles hd⟩

end

/-! ## What is derived is answered by a run -/

section
variable {rules : Rules} {input : List Char}

/-- The task as it is run answers the step in every sound store, and records the failures. -/
def Performed (rules : Rules) (input : List Char) (position : Nat) (step : Step)
    (failures : List Failure) : Task → Prop
  | .whole c => ∀ (L : Legend) (E : List Nat) (p : Parser) (store : Store),
    Built rules L E p c → Sound rules [] L store →
    ∃ fuel L' store', p.run input fuel position store = some (step, store') ∧
      After rules L store failures L' store'
  | .parts cs => ∀ (L : Legend) (E : List Nat) (ps : List Parser) (done : List Value)
      (store : Store),
    List.Forall₂ (Built rules L E) ps cs → Sound rules [] L store →
    ∃ fuel L' store', Parser.runSequence (Parser.run input fuel) ps done position store =
      some (step.consAll done, store') ∧ After rules L store failures L' store'
  | .alternatives cs => ∀ (L : Legend) (E : List Nat) (ps : List Parser) (store : Store),
    List.Forall₂ (Built rules L E) ps cs → Sound rules [] L store →
    ∃ fuel L' store', Parser.runChoice (Parser.run input fuel) ps position store =
      some (step, store') ∧ After rules L store failures L' store'
  | .iterations c => ∀ (L : Legend) (E : List Nat) (p : Parser) (done : List Value)
      (store : Store),
    Built rules L E p c → Sound rules [] L store →
    ∃ fuel L' store', Parser.runMany (p.run input fuel) fuel done position store =
      some (step.consAll done, store') ∧ After rules L store failures L' store'

theorem Result.andThen_eq_of_ok {r : Result} {o : Outcome Value} {store : Store}
    (h : r = some (.ok o, store)) (next : Outcome Value → Store → Result) :
    r.andThen next = next o store := by
  rw [h, Result.andThen_ok]

theorem Result.andThen_eq_of_error {r : Result} {error : GrammarError} {store : Store}
    (h : r = some (.error error, store)) (next : Outcome Value → Store → Result) :
    r.andThen next = some (.error error, store) := by
  rw [h, Result.andThen_error]

/-- A leaf answers at once. -/
theorem performed_of_recognizes {c : Closure} {position : Nat} {step : Step}
    (h : Recognizes input position c.grammar step) :
    Performed rules input position step [] (.whole c) := by
  intro L E p store hb hs
  have hp := hb.shaped hs
  refine ⟨1, L, store, ?_, .refl hs⟩
  obtain ⟨g, d, ρ⟩ := c
  cases g with
  | literal text =>
    obtain rfl : p = .literal text := hp
    rw [recognizes_literal_iff.1 h]; rfl
  | charClass set negate =>
    obtain rfl : p = .charClass set negate := hp
    rw [recognizes_charClass_iff.1 h]; rfl
  | pattern expression ignoreCase =>
    obtain ⟨q, hq, rfl⟩ := hp
    rw [(recognizes_pattern_iff hq).1 h]; rfl
  | custom answer =>
    obtain rfl : p = .custom answer := hp
    rw [recognizes_custom_iff.1 h]; rfl
  | _ => cases h

/-- A name is invoked by invoking what it means. -/
theorem performed_of_means {c c' : Closure} {position : Nat} {step : Step}
    {failures : List Failure} (hm : c.Means rules c')
    (ih : Performed rules input position step failures (.whole c')) :
    Performed rules input position step failures (.whole c) := by
  intro L E p store hb hs
  rcases hb.refers_or_built hm with hr | hb
  · obtain ⟨L₁, E₁, store₁, q, ha, hf, hrun⟩ := hr.run hs input
    cases hf with
    | means hm' hb =>
      obtain rfl := hm.unique hm'
      obtain ⟨fuel, L', store', h, ha'⟩ := ih L₁ E₁ q store₁ hb ha.sound
      exact ⟨fuel + 1, L', store', by rw [hrun, h], ha.trans ha'⟩
    | dangles hd => exact absurd hd hm.not_dangles
  · exact ih L E p store hb hs

theorem performed_of_dangles {c : Closure} {position : Nat} {error : GrammarError}
    (hd : c.Dangles rules error) :
    Performed rules input position (.error error) [] (.whole c) := by
  intro L E p store hb hs
  rcases hb.refers_or_eq_raise hd with hr | rfl
  · obtain ⟨L', E', store', q, ha, hf, hrun⟩ := hr.run hs input
    cases hf with
    | means hm => exact absurd hd hm.not_dangles
    | dangles hd' =>
      obtain rfl := hd.unique hd'
      exact ⟨2, L', store', hrun 1 position, ha⟩
  · exact ⟨1, L, store, rfl, .refl hs⟩

/-- A combinator that changes the outcome of one body. -/
theorem performed_of_reshapes {c : Closure} {body : Grammar} {position : Nat}
    {o o' : Outcome Value} {failures : List Failure}
    (hr : Reshapes position c.grammar body o o')
    (ih : Performed rules input position (.ok o) failures (.whole (c.inner body))) :
    Performed rules input position (.ok o') failures (.whole c) := by
  intro L E p store hb hs
  have hp := hb.shaped hs
  have hbody := hr.body?_eq
  obtain ⟨g, d, ρ⟩ := c
  cases g with
  | optional g =>
    obtain rfl : g = body := Option.some.inj hbody
    obtain ⟨q, rfl, hq⟩ := hp
    obtain ⟨fuel, L', store', h, ha⟩ := ih L E q store hq hs
    exact ⟨fuel + 1, L', store',
      by rw [reshapes_optional_iff.1 hr]; exact Result.andThen_eq_of_ok h _, ha⟩
  | transform f g =>
    obtain rfl : g = body := Option.some.inj hbody
    obtain ⟨q, rfl, hq⟩ := hp
    obtain ⟨fuel, L', store', h, ha⟩ := ih L E q store hq hs
    exact ⟨fuel + 1, L', store',
      by rw [reshapes_transform_iff.1 hr]; exact Result.andThen_eq_of_ok h _, ha⟩
  | tryTransform f g =>
    obtain rfl : g = body := Option.some.inj hbody
    obtain ⟨q, rfl, hq⟩ := hp
    obtain ⟨fuel, L', store', h, ha⟩ := ih L E q store hq hs
    exact ⟨fuel + 1, L', store',
      by rw [reshapes_tryTransform_iff.1 hr]; exact Result.andThen_eq_of_ok h _, ha⟩
  | tag accepts g =>
    obtain rfl : g = body := Option.some.inj hbody
    obtain ⟨q, rfl, hq⟩ := hp
    obtain ⟨fuel, L', store', h, ha⟩ := ih L E q store hq hs
    exact ⟨fuel + 1, L', store',
      by rw [reshapes_tag_iff.1 hr]; exact Result.andThen_eq_of_ok h _, ha⟩
  | guarded accepts g =>
    obtain rfl : g = body := Option.some.inj hbody
    obtain ⟨q, rfl, hq⟩ := hp
    obtain ⟨fuel, L', store', h, ha⟩ := ih L E q store hq hs
    exact ⟨fuel + 1, L', store',
      by rw [reshapes_guarded_iff.1 hr]; exact Result.andThen_eq_of_ok h _, ha⟩
  | _ => cases hr

/-- A labelled body records the label where it does not match. -/
theorem performed_of_labelled {c : Closure} {label : String} {body : Grammar} {position : Nat}
    {o : Outcome Value} {failures : List Failure} (hg : c.grammar = .labelled label body)
    (ih : Performed rules input position (.ok o) failures (.whole (c.inner body))) :
    Performed rules input position (.ok o)
      (failures ++ if o.matched then [] else [⟨position, label⟩]) (.whole c) := by
  intro L E p store hb hs
  have hp := hb.shaped hs
  simp only [Shaped, hg] at hp
  obtain ⟨q, rfl, hq⟩ := hp
  obtain ⟨fuel, L', store', h, ha⟩ := ih L E q store hq hs
  refine ⟨fuel + 1, L', _, Result.andThen_eq_of_ok h _, ?_⟩
  split
  · rwa [List.append_nil]
  · exact ha.expect position label

/-- An error of the body is that of the combinator. -/
theorem performed_of_body_error {c : Closure} {body : Grammar} {position : Nat}
    {error : GrammarError} {failures : List Failure} (hg : c.grammar.body? = some body)
    (ih : Performed rules input position (.error error) failures (.whole (c.inner body))) :
    Performed rules input position (.error error) failures (.whole c) := by
  intro L E p store hb hs
  have hp := hb.shaped hs
  obtain ⟨g, d, ρ⟩ := c
  cases g with
  | optional g | transform f g | tryTransform f g | tag accepts g | guarded accepts g
  | labelled label g =>
    obtain rfl : g = body := Option.some.inj hg
    obtain ⟨q, rfl, hq⟩ := hp
    obtain ⟨fuel, L', store', h, ha⟩ := ih L E q store hq hs
    exact ⟨fuel + 1, L', store', Result.andThen_eq_of_error h _, ha⟩
  | _ => cases hg

theorem performed_of_sequence {c : Closure} {gs : List Grammar} {position : Nat} {step : Step}
    {failures : List Failure} (hg : c.grammar = .sequence gs)
    (ih : Performed rules input position step failures (.parts (gs.map c.inner))) :
    Performed rules input position step failures (.whole c) := by
  intro L E p store hb hs
  have hp := hb.shaped hs
  simp only [Shaped, hg] at hp
  obtain ⟨ps, rfl, hps⟩ := hp
  obtain ⟨fuel, L', store', h, ha⟩ := ih L E ps [] store hps hs
  exact ⟨fuel + 1, L', store', h, ha⟩

theorem performed_of_choice {c : Closure} {gs : List Grammar} {position : Nat} {step : Step}
    {failures : List Failure} (hg : c.grammar = .choice gs)
    (ih : Performed rules input position step failures (.alternatives (gs.map c.inner))) :
    Performed rules input position step failures (.whole c) := by
  intro L E p store hb hs
  have hp := hb.shaped hs
  simp only [Shaped, hg] at hp
  obtain ⟨ps, rfl, hps⟩ := hp
  obtain ⟨fuel, L', store', h, ha⟩ := ih L E ps store hps hs
  exact ⟨fuel + 1, L', store', h, ha⟩

theorem performed_of_many {c : Closure} {body : Grammar} {position : Nat} {step : Step}
    {failures : List Failure} (hg : c.grammar = .many body)
    (ih : Performed rules input position step failures (.iterations (c.inner body))) :
    Performed rules input position step failures (.whole c) := by
  intro L E p store hb hs
  have hp := hb.shaped hs
  simp only [Shaped, hg] at hp
  obtain ⟨q, rfl, hq⟩ := hp
  obtain ⟨fuel, L', store', h, ha⟩ := ih L E q [] store hq hs
  exact ⟨fuel + 1, L', store', h, ha⟩

/-! ### Parts -/

theorem performed_parts_nil {position : Nat} :
    Performed rules input position (.ok (.success (.arr []) position)) [] (.parts []) := by
  intro L E ps done store hb hs
  cases hb
  exact ⟨0, L, store, by rw [Step.consAll_arr, List.append_nil]; rfl, .refl hs⟩

/-- Each part runs in the store that the part before leaves behind. -/
theorem performed_parts_cons {c : Closure} {cs : List Closure} {position next : Nat} {v : Value}
    {step : Step} {failures failures' : List Failure}
    (ih : Performed rules input position (.ok (.success v next)) failures (.whole c))
    (ih' : Performed rules input next step failures' (.parts cs)) :
    Performed rules input position (step.cons v) (failures ++ failures') (.parts (c :: cs)) := by
  intro L E ps done store hb hs
  obtain ⟨p, ps, hp, hps, rfl⟩ := List.forall₂_cons_right_iff.1 hb
  obtain ⟨fuel, L₁, store₁, h, ha⟩ := ih L E p store hp hs
  have hps₁ : List.Forall₂ (Built rules L₁ E) ps cs :=
    hps.imp fun _ _ hb => hb.mono ha.le (List.Subset.refl _)
  obtain ⟨fuel', L', store', h', ha'⟩ := ih' L₁ E ps (v :: done) store₁ hps₁ ha.sound
  -- Both runs go on as they are with more fuel.
  have hfirst := Parser.run_mono h (Nat.le_max_left fuel fuel')
  have hrest := Parser.run_within input (Nat.le_max_right fuel fuel')
  refine ⟨max fuel fuel', L', store', ?_, ha.trans ha'⟩
  rw [Parser.runSequence, Result.andThen_eq_of_ok hfirst]
  exact Parser.runSequence_within hrest _ _ _ _ _ h'

/-- The first part that does not match decides. -/
theorem performed_parts_fails {c : Closure} {cs : List Closure} {position : Nat}
    {o : Outcome Value} {failures : List Failure}
    (ih : Performed rules input position (.ok o) failures (.whole c)) (ho : o.matched = false) :
    Performed rules input position (.ok (.failure o.next)) failures (.parts (c :: cs)) := by
  intro L E ps done store hb hs
  obtain ⟨p, ps, hp, hps, rfl⟩ := List.forall₂_cons_right_iff.1 hb
  obtain ⟨fuel, L', store', h, ha⟩ := ih L E p store hp hs
  refine ⟨fuel, L', store', ?_, ha⟩
  rw [Parser.runSequence, Result.andThen_eq_of_ok h, Step.consAll_failure]
  cases o with
  | success v next => cases ho
  | failure next => rfl
  | rejected v next => rfl

theorem performed_parts_error {c : Closure} {cs : List Closure} {position : Nat}
    {error : GrammarError} {failures : List Failure}
    (ih : Performed rules input position (.error error) failures (.whole c)) :
    Performed rules input position (.error error) failures (.parts (c :: cs)) := by
  intro L E ps done store hb hs
  obtain ⟨p, ps, hp, hps, rfl⟩ := List.forall₂_cons_right_iff.1 hb
  obtain ⟨fuel, L', store', h, ha⟩ := ih L E p store hp hs
  refine ⟨fuel, L', store', ?_, ha⟩
  rw [Parser.runSequence, Result.andThen_eq_of_error h, Step.consAll_error]

/-! ### Alternatives -/

theorem performed_alternatives_nil {position : Nat} :
    Performed rules input position (.ok (.failure position)) [] (.alternatives []) := by
  intro L E ps store hb hs
  cases hb
  exact ⟨0, L, store, rfl, .refl hs⟩

theorem performed_alternatives_match {c : Closure} {cs : List Closure} {position : Nat}
    {o : Outcome Value} {failures : List Failure}
    (ih : Performed rules input position (.ok o) failures (.whole c)) (ho : o.matched = true) :
    Performed rules input position (.ok o) failures (.alternatives (c :: cs)) := by
  intro L E ps store hb hs
  obtain ⟨p, ps, hp, hps, rfl⟩ := List.forall₂_cons_right_iff.1 hb
  obtain ⟨fuel, L', store', h, ha⟩ := ih L E p store hp hs
  refine ⟨fuel, L', store', ?_, ha⟩
  rw [Parser.runChoice, Result.andThen_eq_of_ok h, if_pos ho]

/-- Each alternative runs in the store that the one before leaves behind. -/
theorem performed_alternatives_next {c : Closure} {cs : List Closure} {position : Nat}
    {o : Outcome Value} {step : Step} {failures failures' : List Failure}
    (ih : Performed rules input position (.ok o) failures (.whole c)) (ho : o.matched = false)
    (ih' : Performed rules input position step failures' (.alternatives cs)) :
    Performed rules input position step (failures ++ failures') (.alternatives (c :: cs)) := by
  intro L E ps store hb hs
  obtain ⟨p, ps, hp, hps, rfl⟩ := List.forall₂_cons_right_iff.1 hb
  obtain ⟨fuel, L₁, store₁, h, ha⟩ := ih L E p store hp hs
  have hps₁ : List.Forall₂ (Built rules L₁ E) ps cs :=
    hps.imp fun _ _ hb => hb.mono ha.le (List.Subset.refl _)
  obtain ⟨fuel', L', store', h', ha'⟩ := ih' L₁ E ps store₁ hps₁ ha.sound
  have hfirst := Parser.run_mono h (Nat.le_max_left fuel fuel')
  have hrest := Parser.run_within input (Nat.le_max_right fuel fuel')
  refine ⟨max fuel fuel', L', store', ?_, ha.trans ha'⟩
  rw [Parser.runChoice, Result.andThen_eq_of_ok hfirst, ho]
  exact Parser.runChoice_within hrest _ _ _ _ h'

theorem performed_alternatives_error {c : Closure} {cs : List Closure} {position : Nat}
    {error : GrammarError} {failures : List Failure}
    (ih : Performed rules input position (.error error) failures (.whole c)) :
    Performed rules input position (.error error) failures (.alternatives (c :: cs)) := by
  intro L E ps store hb hs
  obtain ⟨p, ps, hp, hps, rfl⟩ := List.forall₂_cons_right_iff.1 hb
  obtain ⟨fuel, L', store', h, ha⟩ := ih L E p store hp hs
  exact ⟨fuel, L', store', Result.andThen_eq_of_error h _, ha⟩

/-! ### Iterations

A repetition spends one more unit of fuel on each iteration than the iteration itself. -/

theorem performed_iterations_stop {c : Closure} {position : Nat} {o : Outcome Value}
    {failures : List Failure}
    (ih : Performed rules input position (.ok o) failures (.whole c)) (ho : o.matched = false) :
    Performed rules input position (.ok (.success (.arr []) position)) failures
      (.iterations c) := by
  intro L E p done store hb hs
  obtain ⟨fuel, L', store', h, ha⟩ := ih L E p store hb hs
  refine ⟨fuel + 1, L', store', ?_, ha⟩
  rw [Parser.runMany, Result.andThen_eq_of_ok (Parser.run_mono h (Nat.le_succ _)),
    Step.consAll_arr, List.append_nil]
  cases o with
  | success v next => cases ho
  | failure next => rfl
  | rejected v next => rfl

theorem performed_iterations_next {c : Closure} {position next : Nat} {v : Value} {step : Step}
    {failures failures' : List Failure}
    (ih : Performed rules input position (.ok (.success v next)) failures (.whole c))
    (hn : next ≠ position) (ih' : Performed rules input next step failures' (.iterations c)) :
    Performed rules input position (step.cons v) (failures ++ failures') (.iterations c) := by
  intro L E p done store hb hs
  obtain ⟨fuel, L₁, store₁, h, ha⟩ := ih L E p store hb hs
  have hb₁ : Built rules L₁ E p c := hb.mono ha.le (List.Subset.refl _)
  obtain ⟨fuel', L', store', h', ha'⟩ := ih' L₁ E p (v :: done) store₁ hb₁ ha.sound
  have hle : fuel ≤ max fuel fuel' + 1 := by omega
  have hle' : fuel' ≤ max fuel fuel' + 1 := by omega
  refine ⟨max fuel fuel' + 1, L', store', ?_, ha.trans ha'⟩
  rw [Parser.runMany, Result.andThen_eq_of_ok (Parser.run_mono h hle)]
  dsimp only
  rw [if_neg hn]
  exact Parser.runMany_within (Parser.run_within input hle' p) (Nat.le_max_right ..) _ _ _ _ h'

/-- An iteration that matches nothing is reported, and is the end. -/
theorem performed_iterations_stall {c : Closure} {position : Nat} {v : Value}
    {failures : List Failure}
    (ih : Performed rules input position (.ok (.success v position)) failures (.whole c)) :
    Performed rules input position (.error (.zeroWidthRepetition position)) failures
      (.iterations c) := by
  intro L E p done store hb hs
  obtain ⟨fuel, L', store', h, ha⟩ := ih L E p store hb hs
  refine ⟨fuel + 1, L', _, ?_, ha.report (.repetitionStalled position)⟩
  rw [Parser.runMany, Result.andThen_eq_of_ok (Parser.run_mono h (Nat.le_succ _)),
    Step.consAll_error]
  exact if_pos rfl

theorem performed_iterations_error {c : Closure} {position : Nat} {error : GrammarError}
    {failures : List Failure}
    (ih : Performed rules input position (.error error) failures (.whole c)) :
    Performed rules input position (.error error) failures (.iterations c) := by
  intro L E p done store hb hs
  obtain ⟨fuel, L', store', h, ha⟩ := ih L E p store hb hs
  refine ⟨fuel + 1, L', store', ?_, ha⟩
  rw [Parser.runMany, Result.andThen_eq_of_error (Parser.run_mono h (Nat.le_succ _)),
    Step.consAll_error]

/-- Each derived answer is that of a run. -/
theorem performed_of_derives {task : Task} {position : Nat} {step : Step}
    {failures : List Failure} (h : Derives rules input task position step failures) :
    Performed rules input position step failures task := by
  induction h with
  | recognizes h => exact performed_of_recognizes h
  | means hm _ ih => exact performed_of_means hm ih
  | dangles hd => exact performed_of_dangles hd
  | reshapes hr _ ih => exact performed_of_reshapes hr ih
  | labelled_match hg _ ho ih => simpa [ho] using performed_of_labelled hg ih
  | labelled_fails hg _ ho ih => simpa [ho] using performed_of_labelled hg ih
  | body_error hg _ ih => exact performed_of_body_error hg ih
  | sequence hg _ ih => exact performed_of_sequence hg ih
  | choice hg _ ih => exact performed_of_choice hg ih
  | many hg _ ih => exact performed_of_many hg ih
  | parts_nil => exact performed_parts_nil
  | parts_cons _ _ ih ih' => exact performed_parts_cons ih ih'
  | parts_fails _ ho ih => exact performed_parts_fails ih ho
  | parts_error _ ih => exact performed_parts_error ih
  | alternatives_nil => exact performed_alternatives_nil
  | alternatives_match _ ho ih => exact performed_alternatives_match ih ho
  | alternatives_next _ ho _ ih ih' => exact performed_alternatives_next ih ho ih'
  | alternatives_error _ ih => exact performed_alternatives_error ih
  | iterations_stop _ ho ih => exact performed_iterations_stop ih ho
  | iterations_next _ hn _ ih ih' => exact performed_iterations_next ih hn ih'
  | iterations_stall _ ih => exact performed_iterations_stall ih
  | iterations_error _ ih => exact performed_iterations_error ih

end

/-! ## Invocations -/

section
variable {rules : Rules} {L : Legend} {E : List Nat} {p : Parser} {c : Closure} {store : Store}
  {input : List Char} {position : Nat} {step : Step}

/-- An invocation answers what is derived, and records what is recorded on the way. -/
theorem derives_of_invoke {store' : Store} (hb : Built rules L E p c) (hs : Sound rules [] L store)
    (h : p.invoke input position store = some (step, store')) :
    ∃ L' failures, After rules L store failures L' store' ∧
      Derives rules input (.whole c) position step failures := by
  obtain ⟨fuel, h⟩ := Parser.invoke_eq_some_iff.1 h
  exact exists_derives_of_run fuel L E p c position store step store' hb hs h

/-- What is derived is the answer of the invocation. -/
theorem invoke_of_derives {failures : List Failure} (hb : Built rules L E p c)
    (hs : Sound rules [] L store) (h : Derives rules input (.whole c) position step failures) :
    ∃ L' store', p.invoke input position store = some (step, store') ∧
      After rules L store failures L' store' := by
  obtain ⟨fuel, L', store', h, ha⟩ := performed_of_derives h L E p store hb hs
  exact ⟨L', store', Parser.invoke_eq_some_iff.2 ⟨fuel, h⟩, ha⟩

end

end Descent
