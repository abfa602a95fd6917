import Descent.Proofs.Meaning.LeftRecursion
import Descent.Proofs.Meaning.Unique

/-!
# Termination

A definition without custom parts that leads to no left-recursive rule answers at every boundary of
every input (`Closure.Tame.ends`). What it invokes at the position that it is invoked at is
well-founded (`Closure.grounded`), and all else that it invokes is further on in the input; a
repetition that does not get further has stalled, which is an answer.
-/

namespace Descent

/-! ## What can be built -/

namespace Grammar

variable {named : String → Option GrammarError}

theorem fault_of_mem {gs : List Grammar} (h : faultAll named gs = none) :
    ∀ g ∈ gs, g.faultWith named = none := by
  induction gs with
  | nil => exact List.forall_mem_nil _
  | cons g gs ih =>
    rw [faultAll, Option.or_eq_none_iff] at h
    exact List.forall_mem_cons.2 ⟨h.1, ih h.2⟩

theorem fault_part {g g' : Grammar} (h : g.faultWith named = none) (hg : g' ∈ g.parts) :
    g'.faultWith named = none := by
  cases g with
  | sequence gs | choice gs => exact fault_of_mem h g' hg
  | many body | optional body | transform f body | tryTransform f body | tag accepts body
  | guarded accepts body | labelled label body =>
    obtain rfl := List.mem_singleton.1 hg
    exact h
  | _ => cases hg

end Grammar

namespace Closure

variable {rules : Rules} {c c' : Closure}

/-- Neither the definition nor any that its names mean comes to an error of building. -/
inductive Faultless (rules : Rules) : Closure → Prop
  | mk {g : Grammar} {d : Nat} {ρ : List (String × Closure)} :
      g.faultWith (Grammar.faultNamed rules d) = none → (∀ a ∈ ρ, Faultless rules a.2) →
      Faultless rules ⟨g, d, ρ⟩

theorem Faultless.grammar (h : c.Faultless rules) :
    c.grammar.faultWith (Grammar.faultNamed rules c.depth) = none := by
  cases h; assumption

theorem Faultless.calls (h : c.Faultless rules) (hc : c.Calls rules c') : c'.Faultless rules := by
  cases h with
  | mk hg hρ =>
    cases hc with
    | part hp => exact .mk (Grammar.fault_part hg hp) hρ
    | means hm =>
      cases hm with
      | var hl => exact hρ _ (mem_of_lookup hl)
      | bind =>
        rw [Grammar.faultWith, Option.or_eq_none_iff] at hg
        exact .mk hg.2 (List.forall_mem_cons.2 ⟨.mk hg.1 hρ, hρ⟩)
      | rule hl =>
        rw [Grammar.faultWith, Grammar.faultNamed, hl] at hg
        exact .mk hg hρ
      | recursive => exact .mk hg (List.forall_mem_cons.2 ⟨.mk hg hρ, hρ⟩)
      | deferred hf => exact .mk hf hρ

/-- What keeps a definition from running for ever. -/
structure Tame (rules : Rules) (c : Closure) : Prop where
  standard : c.Standard
  faultless : c.Faultless rules
  always : c.Always rules fun c' => ¬ c'.LeftRecursive rules

theorem Tame.calls (hrules : rules.Standard) (h : c.Tame rules) (hc : c.Calls rules c') :
    c'.Tame rules :=
  ⟨h.standard.calls hrules hc, h.faultless.calls hc, h.always.calls hc⟩

end Closure

/-! ## Answers -/

/-- The task comes to an answer. -/
def Task.Ends (rules : Rules) (input : List Char) (position : Nat) (task : Task) : Prop :=
  ∃ step failures, Derives rules input task position step failures

section
variable {rules : Rules} {input : List Char} {position : Nat} {c : Closure}

theorem exists_recognizes {g : Grammar} {named : String → Option GrammarError} (hl : g.Leaf)
    (hf : g.faultWith named = none) : ∃ step, Recognizes input position g step := by
  cases g with
  | literal => exact ⟨_, recognizes_literal_iff.2 rfl⟩
  | charClass => exact ⟨_, recognizes_charClass_iff.2 rfl⟩
  | custom => exact ⟨_, recognizes_custom_iff.2 rfl⟩
  | pattern expression ignoreCase =>
    rw [Grammar.faultWith] at hf
    split at hf
    · rename_i hp
      obtain ⟨p, hp⟩ := Option.isSome_iff_exists.1 hp
      exact ⟨_, (recognizes_pattern_iff hp).2 rfl⟩
    · cases hf
  | _ => cases hl

/-- A name means something, or there is nothing behind it. -/
theorem Closure.means_or_dangles (h : c.grammar.isName = true) :
    (∃ c', c.Means rules c') ∨ ∃ error, c.Dangles rules error := by
  obtain ⟨g, d, ρ⟩ := c
  cases g with
  | bind | recursive => exact .inl ⟨_, by constructor⟩
  | var name =>
    cases hl : ρ.lookup name with
    | some c' => exact .inl ⟨c', .var hl⟩
    | none => exact .inr ⟨_, .var hl⟩
  | rule name =>
    cases d with
    | zero => exact .inr ⟨_, .rule (.inl rfl)⟩
    | succ d =>
      cases hl : rules.lookup name with
      | some definition => exact .inl ⟨_, .rule hl⟩
      | none => exact .inr ⟨_, .rule (.inr hl)⟩
  | deferred body =>
    cases hf : body.fault rules with
    | none => exact .inl ⟨_, .deferred hf⟩
    | some error => exact .inr ⟨_, .deferred hf⟩
  | _ => cases h

theorem exists_reshapes_or_labelled {g body : Grammar} (hg : g.body? = some body)
    (o : Outcome Value) :
    (∃ o', Reshapes position g body o o') ∨ ∃ label, g = .labelled label body := by
  cases g with
  | optional => cases hg; exact .inl ⟨_, reshapes_optional_iff.2 rfl⟩
  | transform => cases hg; exact .inl ⟨_, reshapes_transform_iff.2 rfl⟩
  | tryTransform => cases hg; exact .inl ⟨_, reshapes_tryTransform_iff.2 rfl⟩
  | tag => cases hg; exact .inl ⟨_, reshapes_tag_iff.2 rfl⟩
  | guarded => cases hg; exact .inl ⟨_, reshapes_guarded_iff.2 rfl⟩
  | labelled label => cases hg; exact .inr ⟨label, rfl⟩
  | _ => cases hg

theorem ends_body {g : Grammar} (hg : c.grammar.body? = some g)
    (h : Task.Ends rules input position (.whole (c.inner g))) :
    Task.Ends rules input position (.whole c) := by
  obtain ⟨step, failures, h⟩ := h
  match step with
  | .error error => exact ⟨_, _, .body_error hg h⟩
  | .ok o =>
    obtain ⟨o', hr⟩ | ⟨label, hl⟩ := @exists_reshapes_or_labelled position _ _ hg o
    · exact ⟨_, _, .reshapes hr h⟩
    · cases hm : o.matched with
      | true => exact ⟨_, _, .labelled_match hl h hm⟩
      | false => exact ⟨_, _, .labelled_fails hl h hm⟩

theorem ends_alternatives {cs : List Closure}
    (h : ∀ c ∈ cs, Task.Ends rules input position (.whole c)) :
    Task.Ends rules input position (.alternatives cs) := by
  induction cs with
  | nil => exact ⟨_, _, .alternatives_nil⟩
  | cons c cs ih =>
    obtain ⟨hc, hcs⟩ := List.forall_mem_cons.1 h
    obtain ⟨step, failures, hc⟩ := hc
    match step with
    | .error error => exact ⟨_, _, .alternatives_error hc⟩
    | .ok o =>
      cases hm : o.matched with
      | true => exact ⟨_, _, .alternatives_match hc hm⟩
      | false =>
        obtain ⟨step', failures', hcs⟩ := ih hcs
        exact ⟨_, _, .alternatives_next hc hm hcs⟩

/-- A match ends on a boundary, there or further on. -/
theorem Closure.Standard.onward_of_derives (hrules : rules.Standard) (hc : c.Standard)
    (hp : Text.isBoundary input position = true) {v : Value} {next : Nat}
    {failures : List Failure}
    (h : Derives rules input (.whole c) position (.ok (.success v next)) failures) :
    Text.Onward input position next :=
  (h.onward hrules (fun c' hc' => by rwa [List.mem_singleton.1 hc']) hp).1

/-- Iterations come to an end where the first does, and all that start further on do. -/
theorem ends_iterations (hrules : rules.Standard) (hc : c.Standard)
    (hp : Text.isBoundary input position = true)
    (h : Task.Ends rules input position (.whole c))
    (hlater : ∀ next, position < next → Text.isBoundary input next = true →
      Task.Ends rules input next (.iterations c)) :
    Task.Ends rules input position (.iterations c) := by
  obtain ⟨step, failures, h⟩ := h
  match step with
  | .error error => exact ⟨_, _, .iterations_error h⟩
  | .ok (.failure next) | .ok (.rejected v next) => exact ⟨_, _, .iterations_stop h rfl⟩
  | .ok (.success v next) =>
    have hon := hc.onward_of_derives hrules hp h
    obtain rfl | hlt := Nat.eq_or_lt_of_le hon.le
    · exact ⟨_, _, .iterations_stall h⟩
    · obtain ⟨step', failures', h'⟩ := hlater next hlt hon.boundary
      exact ⟨_, _, .iterations_next h (Nat.ne_of_gt hlt) h'⟩

/-- The parts of a sequence come to an end where each does that is started where the sequence is,
and all do further on. -/
theorem ends_parts (hrules : rules.Standard) (hc : c.Standard)
    (hp : Text.isBoundary input position = true)
    (hstarts : ∀ c', c.Starts rules c' → Task.Ends rules input position (.whole c')) :
    ∀ (front back : List Grammar) (mid : Nat), c.grammar = .sequence (front ++ back) →
      Text.Onward input position mid →
      (mid = position → ∀ g ∈ front, ¬ (c.inner g).Advances rules) →
      (∀ g ∈ back, ∀ next, position < next → Text.isBoundary input next = true →
        Task.Ends rules input next (.whole (c.inner g))) →
      Task.Ends rules input mid (.parts (back.map c.inner))
  | _, [], mid, _, _, _, _ => ⟨_, _, .parts_nil⟩
  | front, g :: back, mid, hg, hmid, hfront, hlater => by
    have hg' : Task.Ends rules input mid (.whole (c.inner g)) := by
      obtain heq | hlt := Nat.eq_or_lt_of_le hmid.le
      · subst heq
        exact hstarts _ (.sequence hg (hfront rfl))
      · exact hlater g List.mem_cons_self mid hlt hmid.boundary
    obtain ⟨step, failures, h⟩ := hg'
    match step with
    | .error error => exact ⟨_, _, .parts_error h⟩
    | .ok (.failure next) | .ok (.rejected v next) => exact ⟨_, _, .parts_fails h rfl⟩
    | .ok (.success v next) =>
      have hcg : (c.inner g).Standard := hc.calls hrules (.part (by simp [hg, Grammar.parts]))
      have hon := hcg.onward_of_derives hrules hmid.boundary h
      obtain ⟨step', failures', h'⟩ :=
        ends_parts hrules hc hp hstarts (front ++ [g]) back next (by simp [hg]) (hmid.trans hon)
          (fun heq g' hg' => by
            -- the position has not changed, so that this part has matched the empty text too
            subst heq
            obtain rfl := Nat.le_antisymm hon.le hmid.le
            obtain hmem | hmem := List.mem_append.1 hg'
            · exact hfront rfl g' hmem
            · obtain rfl := List.mem_singleton.1 hmem
              exact fun ha => ha _ _ _ _ hp ⟨_, h⟩ rfl)
          (fun g' hmem => hlater g' (List.mem_cons_of_mem g hmem))
      exact ⟨_, _, .parts_cons h h'⟩

/-- A definition comes to an answer where all that it starts does, and all that it invokes further
on. -/
theorem Closure.Tame.ends_of_calls (hrules : rules.Standard) (hc : c.Tame rules)
    (hp : Text.isBoundary input position = true)
    (hstarts : ∀ c', c.Starts rules c' → Task.Ends rules input position (.whole c'))
    (hlater : ∀ c' next, c'.Tame rules → position < next → Text.isBoundary input next = true →
      Task.Ends rules input next (.whole c')) :
    Task.Ends rules input position (.whole c) := by
  have hparts : ∀ g ∈ c.grammar.parts, (c.inner g).Tame rules := fun g hg =>
    hc.calls hrules (.part hg)
  cases hg : c.grammar with
  | literal | charClass | pattern | custom =>
    have hl : c.grammar.Leaf := by rw [hg]; trivial
    obtain ⟨step, h⟩ := exists_recognizes hl hc.faultless.grammar
    exact ⟨step, [], .recognizes h⟩
  | deferred | rule | bind | recursive | var =>
    have hn : c.grammar.isName = true := by rw [hg]; rfl
    obtain ⟨c', hm⟩ | ⟨error, hd⟩ := @Closure.means_or_dangles rules c hn
    · obtain ⟨step, failures, h⟩ := hstarts c' (.means hm)
      exact ⟨step, failures, .means hm h⟩
    · exact ⟨_, [], .dangles hd⟩
  | optional body | transform f body | tryTransform f body | tag accepts body
  | guarded accepts body | labelled label body =>
    have hb : c.grammar.body? = some body := by rw [hg]; rfl
    exact ends_body hb (hstarts _ (.body hb))
  | choice gs =>
    have hall : ∀ c' ∈ gs.map c.inner, Task.Ends rules input position (.whole c') := by
      intro c' hc'
      obtain ⟨g, hmem, rfl⟩ := List.mem_map.1 hc'
      exact hstarts _ (.choice hg hmem)
    obtain ⟨step, failures, h⟩ := ends_alternatives hall
    exact ⟨step, failures, .choice hg h⟩
  | sequence gs =>
    -- a part starts at the position as long as nothing before it has advanced, and further on else
    have hrest : ∀ g ∈ gs, ∀ next, position < next → Text.isBoundary input next = true →
        Task.Ends rules input next (.whole (c.inner g)) := fun g hmem next =>
      hlater _ next (hparts g (by rwa [hg]))
    obtain ⟨step, failures, h⟩ := ends_parts hrules hc.standard hp hstarts [] gs position hg
      (.refl hp) (fun _ => List.forall_mem_nil _) hrest
    exact ⟨step, failures, .sequence hg h⟩
  | many body =>
    have hbody := hparts body (by simp [hg, Grammar.parts])
    -- behind an iteration that advances stands the same repetition, further on
    have hagain : ∀ next, position < next → Text.isBoundary input next = true →
        Task.Ends rules input next (.iterations (c.inner body)) := by
      intro next hlt hb
      obtain ⟨step, failures, h⟩ := hlater c next hc hlt hb
      exact ⟨step, failures, (derives_many_iff hg).1 h⟩
    obtain ⟨step, failures, h⟩ :=
      ends_iterations hrules hbody.standard hp (hstarts _ (.many hg)) hagain
    exact ⟨step, failures, .many hg h⟩

/-- Without left recursion, a definition comes to an answer. -/
theorem Closure.Tame.ends (hrules : rules.Standard) (hc : c.Tame rules)
    (hp : Text.isBoundary input position = true) :
    Task.Ends rules input position (.whole c) := by
  -- by what remains of the input, and at one position by what is still to be started
  induction hn : Text.byteLength input - position using Nat.strongRecOn generalizing c position with
  | ind n later =>
    subst hn
    have hground := Closure.grounded c hc.always
    induction hground with
    | intro c _ starts =>
      refine hc.ends_of_calls hrules hp (fun c' hs => starts c' hs (hc.calls hrules hs.calls)) ?_
      intro c' next hc' hlt hb
      obtain ⟨rest, hat⟩ := Text.isBoundary_iff.1 hb
      have := hat.le_length
      exact later _ (by omega) hc' hb rfl

end

/-! ## Sessions -/

namespace Session

/-- A session of a grammar without left recursion answers wherever it is invoked, however it has
been used. -/
theorem exists_invoke_of_always {rules : Rules} {grammar : Grammar} {options : ReaderOptions}
    {tracked : Bool} {s₀ s : Session} {store : Store} (hrules : rules.Standard)
    (hgrammar : grammar.standard = true)
    (h : (grammar.closed rules).Always rules fun c => ¬ c.LeftRecursive rules)
    (hstart : start rules grammar options tracked = (.ok s₀, store)) (hreach : Reaches s₀ s)
    {input : List Char} {position : Nat} (hp : Text.isBoundary input position = true) :
    ∃ step s', s.invoke input position = some (step, s') := by
  have hfault : grammar.fault rules = none := exists_start_iff.1 ⟨s₀, store, hstart⟩
  have hc : (grammar.closed rules).Tame rules :=
    ⟨.mk hgrammar (List.forall_mem_nil _), .mk hfault (List.forall_mem_nil _), h⟩
  obtain ⟨step, failures, hd⟩ := hc.ends hrules hp
  obtain ⟨s', hi, -⟩ := ((sound_start hstart).reaches hreach).exists_invoke hd
  exact ⟨step, s', hi⟩

end Session

end Descent
