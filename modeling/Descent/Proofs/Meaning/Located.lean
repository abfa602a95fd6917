import Descent.Proofs.Meaning.Contract
import Descent.Proofs.Meaning.Farthest
import Descent.Proofs.Meaning.Similar

/-!
# Failures that can be located

In a fully labelled grammar (`Grammar.fullyLabelled`) every leaf, with what shapes it, stands under
a label. Where such a grammar fails it has recorded a failure that is not before the position it
reports (`Derives.located`): a label records the position where its leaf was tried, and that is what
the leaf reports (`Derives.next_of_shapedLeaf`); a choice reports where it was tried, and its first
alternative has failed there or farther on.
-/

namespace Descent

/-! ## Fully labelled grammars -/

namespace Grammar

/-- A leaf that is no function of input and position, under what shapes its matches. -/
def shapedLeaf : Grammar → Bool
  | literal _ | charClass _ _ | pattern _ _ => true
  | transform _ body => body.shapedLeaf
  | tryTransform _ body => body.shapedLeaf
  | guarded _ body => body.shapedLeaf
  | _ => false

mutual

/-- All leaves are under labels, and a choice has an alternative. -/
def fullyLabelled : Grammar → Bool
  | labelled _ body => body.shapedLeaf || body.fullyLabelled
  | sequence parts => allFullyLabelled parts
  | choice alternatives => !alternatives.isEmpty && allFullyLabelled alternatives
  | many body => body.fullyLabelled
  | optional body => body.fullyLabelled
  | transform _ body => body.fullyLabelled
  | deferred body => body.fullyLabelled
  | recursive _ _ _ body => body.fullyLabelled
  | bind _ definition body => definition.fullyLabelled && body.fullyLabelled
  | rule _ | var _ => true
  | literal _ | charClass _ _ | pattern _ _ | custom _ | tryTransform _ _ | tag _ _
  | guarded _ _ => false

def allFullyLabelled : List Grammar → Bool
  | [] => true
  | g :: gs => g.fullyLabelled && allFullyLabelled gs

end

theorem standard_of_shapedLeaf : ∀ {g : Grammar}, g.shapedLeaf = true → g.standard = true
  | literal _, _ | charClass _ _, _ | pattern _ _, _ => rfl
  | transform _ _, h | tryTransform _ _, h | guarded _ _, h => by
    rw [standard]
    exact standard_of_shapedLeaf h

mutual

theorem standard_of_fullyLabelled : ∀ {g : Grammar}, g.fullyLabelled = true → g.standard = true
  | labelled _ body, h => by
    rw [fullyLabelled, Bool.or_eq_true] at h
    rw [standard]
    exact h.elim standard_of_shapedLeaf standard_of_fullyLabelled
  | sequence parts, h => standardAll_of_allFullyLabelled h
  | choice alternatives, h => by
    rw [fullyLabelled, Bool.and_eq_true] at h
    exact standardAll_of_allFullyLabelled h.2
  | many _, h | optional _, h | transform _ _, h | deferred _, h | recursive _ _ _ _, h => by
    rw [standard]
    exact standard_of_fullyLabelled h
  | bind _ _ _, h => by
    rw [fullyLabelled, Bool.and_eq_true] at h
    rw [standard, standard_of_fullyLabelled h.1, standard_of_fullyLabelled h.2]
    rfl
  | rule _, _ | var _, _ => rfl

theorem standardAll_of_allFullyLabelled :
    ∀ {gs : List Grammar}, allFullyLabelled gs = true → standardAll gs = true
  | [], _ => rfl
  | g :: gs, h => by
    rw [allFullyLabelled, Bool.and_eq_true] at h
    rw [standardAll, standard_of_fullyLabelled h.1, standardAll_of_allFullyLabelled h.2]
    rfl

end

theorem fullyLabelled_of_mem {gs : List Grammar} (h : allFullyLabelled gs = true) :
    ∀ g ∈ gs, g.fullyLabelled = true := by
  induction gs with
  | nil => simp
  | cons g gs ih =>
    rw [allFullyLabelled, Bool.and_eq_true] at h
    exact List.forall_mem_cons.2 ⟨h.1, ih h.2⟩

end Grammar

namespace Rules

/-- All definitions of the rules are fully labelled. -/
def FullyLabelled (rules : Rules) : Prop := ∀ a ∈ rules, a.2.fullyLabelled = true

theorem FullyLabelled.standard {rules : Rules} (h : rules.FullyLabelled) : rules.Standard :=
  fun a ha => Grammar.standard_of_fullyLabelled (h a ha)

end Rules

/-- The definition is fully labelled, and so is all that its names mean. -/
inductive Closure.FullyLabelled : Closure → Prop
  | mk {g : Grammar} {d : Nat} {ρ : List (String × Closure)} : g.fullyLabelled = true →
      (∀ a ∈ ρ, FullyLabelled a.2) → FullyLabelled ⟨g, d, ρ⟩

section
variable {rules : Rules} {input : List Char} {position : Nat} {c c' : Closure}

namespace Closure.FullyLabelled

theorem grammar (h : c.FullyLabelled) : c.grammar.fullyLabelled = true := by
  cases h; assumption

theorem inner (h : c.FullyLabelled) {g : Grammar} (hg : g.fullyLabelled = true) :
    (c.inner g).FullyLabelled := by
  cases h with
  | mk _ hρ => exact .mk hg hρ

theorem map_inner {gs : List Grammar} (h : c.FullyLabelled)
    (hg : Grammar.allFullyLabelled gs = true) : ∀ c' ∈ gs.map c.inner, c'.FullyLabelled := by
  intro c' hc'
  obtain ⟨g, hg', rfl⟩ := List.mem_map.1 hc'
  exact h.inner (Grammar.fullyLabelled_of_mem hg g hg')

theorem standard (h : c.FullyLabelled) : c.Standard := by
  induction h with
  | mk hg _ ih => exact .mk (Grammar.standard_of_fullyLabelled hg) ih

theorem means (hrules : rules.FullyLabelled) (h : c.FullyLabelled) (hm : c.Means rules c') :
    c'.FullyLabelled := by
  cases h with
  | mk hg hρ =>
    cases hm with
    | var hl => exact hρ _ (mem_of_lookup hl)
    | bind =>
      simp only [Grammar.fullyLabelled, Bool.and_eq_true] at hg
      exact .mk hg.2 (List.forall_mem_cons.2 ⟨.mk hg.1 hρ, hρ⟩)
    | rule hl => exact .mk (hrules _ (mem_of_lookup hl)) hρ
    | recursive => exact .mk hg (List.forall_mem_cons.2 ⟨.mk hg hρ, hρ⟩)
    | deferred _ => exact .mk hg hρ

end Closure.FullyLabelled

/-! ## Where a failure is recorded -/

theorem Recognizes.next_of_not_matched {g : Grammar} {o : Outcome Value}
    (h : Recognizes input position g (.ok o)) (hg : g.standard = true) (ho : o.matched = false) :
    o.next = position := by
  generalize hs : (.ok o : Step) = step at h
  cases h with
  | custom => cases hg
  | literal_fails _ | charClass_fails _ | pattern_fails _ _ =>
    cases hs
    rfl
  | _ =>
    cases hs
    cases ho

/-- A leaf that fails reports the position where it was tried, whatever shapes its matches. -/
theorem Derives.next_of_shapedLeaf {failures : List Failure} :
    ∀ (g : Grammar) (o : Outcome Value), g.shapedLeaf = true →
      Derives rules input (.whole (c.inner g)) position (.ok o) failures → o.matched = false →
      o.next = position
  | .literal text, o, _, h, ho =>
    ((@derives_leaf_iff _ _ _ _ _ (c.inner (.literal text)) trivial).1 h).1.next_of_not_matched
      rfl ho
  | .charClass set negate, o, _, h, ho =>
    ((@derives_leaf_iff _ _ _ _ _ (c.inner (.charClass set negate)) trivial).1
      h).1.next_of_not_matched rfl ho
  | .pattern expression ignoreCase, o, _, h, ho =>
    ((@derives_leaf_iff _ _ _ _ _ (c.inner (.pattern expression ignoreCase)) trivial).1
      h).1.next_of_not_matched rfl ho
  | .transform f body, o, hg, h, ho => by
    obtain ⟨o', hr, hd⟩ :=
      (derives_shape_iff fun _ => ⟨_, reshapes_transform_iff.2 rfl⟩).1 h
    cases hr with
    | transform_match => cases ho
    | transform_fails ho' => exact next_of_shapedLeaf body o' hg hd ho'
  | .tryTransform f body, o, hg, h, ho => by
    obtain ⟨o', hr, hd⟩ :=
      (derives_shape_iff fun _ => ⟨_, reshapes_tryTransform_iff.2 rfl⟩).1 h
    cases hr with
    | tryTransform_match _ => cases ho
    | tryTransform_none _ => rfl
    | tryTransform_fails ho' => exact next_of_shapedLeaf body o' hg hd ho'
  | .guarded accepts body, o, hg, h, ho => by
    obtain ⟨o', hr, hd⟩ :=
      (derives_shape_iff fun _ => ⟨_, reshapes_guarded_iff.2 rfl⟩).1 h
    cases hr with
    | guarded_accepts _ => cases ho
    | guarded_rejects _ => rfl
    | guarded_fails ho' => exact next_of_shapedLeaf body o hg hd ho'

/-- A choice that fails reports the position where it was tried. -/
theorem Derives.next_of_alternatives {failures : List Failure} {cs : List Closure}
    {o : Outcome Value} (h : Derives rules input (.alternatives cs) position (.ok o) failures)
    (ho : o.matched = false) : o.next = position := by
  induction cs generalizing failures with
  | nil =>
    cases h
    rfl
  | cons c cs ih =>
    cases h with
    | alternatives_match _ hm => rw [ho] at hm; cases hm
    | alternatives_next _ _ h => exact ih h

/-- What fails has recorded a failure that is not before the position it reports. -/
def Step.Located (failures : List Failure) (step : Step) : Prop :=
  ∀ o, step = .ok o → o.matched = false → ∃ failure ∈ failures, o.next ≤ failure.position

/-- A value in front of those of a match, and failures in front of the others. -/
theorem Step.Located.cons {failures' : List Failure} {step : Step} (h : step.Located failures')
    (v : Value) (failures : List Failure) : (step.cons v).Located (failures ++ failures') := by
  intro o hs ho
  unfold Step.cons at hs
  split at hs
  · cases hs
    cases ho
  · obtain ⟨f, hf, hle⟩ := h o hs ho
    exact ⟨f, List.mem_append_right _ hf, hle⟩

/-- Where a fully labelled grammar fails, the failure can be located. -/
theorem Derives.located (hrules : rules.FullyLabelled) {task : Task} {step : Step}
    {failures : List Failure} (h : Derives rules input task position step failures)
    (hc : ∀ c ∈ task.closures, c.FullyLabelled) (hp : Text.isBoundary input position = true)
    (hne : task ≠ .alternatives []) : step.Located failures := by
  induction h with
  | @recognizes c _ _ h =>
    -- a leaf on its own is not fully labelled
    have hg := (hc _ List.mem_cons_self).grammar
    obtain ⟨g, d, ρ⟩ := c
    cases h <;> cases hg
  | means hm _ ih =>
    have hmeant := (hc _ List.mem_cons_self).means hrules hm
    exact ih (List.forall_mem_singleton.2 hmeant) hp nofun
  | @reshapes c _ _ _ _ _ hr _ ih =>
    have hcl := hc _ List.mem_cons_self
    have hg := hcl.grammar
    obtain ⟨g, d, ρ⟩ := c
    -- only a transform is both a shape and fully labelled, but for `optional`, which never fails
    cases hr with
    | optional_match | optional_none _ | transform_match =>
      rintro _ ⟨⟩ ho
      cases ho
    | transform_fails ho =>
      rintro _ ⟨⟩ -
      obtain ⟨f, hf, hle⟩ := ih (List.forall_mem_singleton.2 (hcl.inner hg)) hp nofun _ rfl ho
      exact ⟨f, hf, hle⟩
    | _ => cases hg
  | labelled_match _ _ hm =>
    rintro _ ⟨⟩ ho
    rw [ho] at hm
    cases hm
  | @labelled_fails c label body position o failures hg hd ho ih =>
    rintro _ ⟨⟩ -
    have hcl := hc _ List.mem_cons_self
    have hbody := hcl.grammar
    rw [hg, Grammar.fullyLabelled, Bool.or_eq_true] at hbody
    rcases hbody with hleaf | hbody
    · -- a leaf fails where it starts, which is where its label is recorded
      have hnext : o.next = position := hd.next_of_shapedLeaf body o hleaf ho
      exact ⟨⟨position, label⟩, by simp, Nat.le_of_eq hnext⟩
    · -- anything else has recorded a failure itself
      have hinner := List.forall_mem_singleton.2 (hcl.inner hbody)
      obtain ⟨f, hf, hle⟩ := ih hinner hp nofun _ rfl ho
      exact ⟨f, List.mem_append_left _ hf, hle⟩
  | sequence hg _ ih =>
    have hcl := hc _ List.mem_cons_self
    have hgs := hcl.grammar
    rw [hg, Grammar.fullyLabelled] at hgs
    exact ih (hcl.map_inner hgs) hp nofun
  | @choice c alternatives _ _ _ hg _ ih =>
    have hcl := hc _ List.mem_cons_self
    have hgs := hcl.grammar
    rw [hg, Grammar.fullyLabelled, Bool.and_eq_true] at hgs
    refine ih (hcl.map_inner hgs.2) hp ?_
    cases alternatives with
    | nil => cases hgs.1
    | cons => exact nofun
  | many hg _ ih =>
    have hcl := hc _ List.mem_cons_self
    have hgs := hcl.grammar
    rw [hg, Grammar.fullyLabelled] at hgs
    exact ih (List.forall_mem_singleton.2 (hcl.inner hgs)) hp nofun
  | parts_cons hd _ _ ih' =>
    obtain ⟨hcl, hcs⟩ := List.forall_mem_cons.1 hc
    have hon : Text.Onward input _ _ :=
      (hd.onward hrules.standard (List.forall_mem_singleton.2 hcl.standard) hp).1
    exact (ih' hcs hon.boundary nofun).cons _ _
  | parts_fails _ hm ih =>
    rintro _ ⟨⟩ -
    have hcl := (List.forall_mem_cons.1 hc).1
    obtain ⟨f, hf, hle⟩ := ih (List.forall_mem_singleton.2 hcl) hp nofun _ rfl hm
    exact ⟨f, hf, hle⟩
  | alternatives_nil => exact absurd rfl hne
  | alternatives_match _ hm =>
    rintro _ ⟨⟩ ho
    rw [ho] at hm
    cases hm
  | @alternatives_next c cs position o step failures failures' hd ho hd' ih _ =>
    rintro o' rfl ho'
    have hcl := (List.forall_mem_cons.1 hc).1
    -- the choice fails at its own position, and the first alternative has failed there or behind
    obtain ⟨f, hf, hle⟩ := ih (List.forall_mem_singleton.2 hcl) hp nofun _ rfl ho
    have hon : Text.Onward input position o.next :=
      (hd.onward hrules.standard (List.forall_mem_singleton.2 hcl.standard) hp).1
    refine ⟨f, List.mem_append_left _ hf, ?_⟩
    rw [hd'.next_of_alternatives ho']
    exact Nat.le_trans hon.le hle
  | iterations_stop _ _ =>
    rintro _ ⟨⟩ ho
    cases ho
  | iterations_next hd _ _ _ ih' =>
    have hcl := List.forall_mem_singleton.1 hc
    have hon : Text.Onward input _ _ :=
      (hd.onward hrules.standard (List.forall_mem_singleton.2 hcl.standard) hp).1
    exact (ih' hc hon.boundary nofun).cons _ _
  | dangles _ | body_error _ _ | parts_error _ | alternatives_error _ | iterations_stall _
  | iterations_error _ => exact fun _ ho => nomatch ho
  | parts_nil =>
    rintro _ ⟨⟩ ho
    cases ho

end

/-! ## The location -/

/-- What a tracker tells of a failure at a position: labels, at a boundary of the input from there
on. -/
structure Farthest.Locates (input : List Char) (next : Nat) (far : Farthest) : Prop where
  onward : Text.Onward input next far.position
  labels : far.expected ≠ []
  nodup : far.expected.Nodup

section
variable {rules : Rules} {input : List Char} {position : Nat} {c : Closure} {o : Outcome Value}
  {failures : List Failure} {far? : Option Farthest}

theorem Derives.locates (hrules : rules.FullyLabelled) (hc : c.FullyLabelled)
    (hp : Text.isBoundary input position = true)
    (h : Derives rules input (.whole c) position (.ok o) failures) (ho : o.matched = false) :
    ∃ far, Failure.farthest? failures = some far ∧ far.Locates input o.next := by
  obtain ⟨f, hf, hle⟩ := h.located hrules (List.forall_mem_singleton.2 hc) hp nofun o rfl ho
  cases hfar : Failure.farthest? failures with
  | none =>
    rw [Failure.farthest?_eq_none_iff.1 hfar] at hf
    cases hf
  | some far =>
    have hof := Failure.isOf_of_farthest? hfar
    obtain ⟨⟨n, label⟩, hmem, rfl⟩ := hof.attained
    have hon := (h.onward hrules.standard (List.forall_mem_singleton.2 hc.standard) hp).2 _ hmem
    exact ⟨far, rfl, ⟨Nat.le_trans hle (hof.greatest f hf), hon.le_length, hon.boundary⟩,
      List.ne_nil_of_mem ((hof.labels label).2 hmem), hof.nodup⟩

theorem Step.prefixAnswer_eq_noMatch {step : Step} {told? : Option Farthest}
    (h : step.prefixAnswer told? = .error (.noMatch far?)) :
    far? = told? ∧ ∃ o, step = .ok o ∧ o.matched = false := by
  unfold prefixAnswer at h
  split at h <;> cases h
  · exact ⟨rfl, _, rfl, rfl⟩
  · exact ⟨rfl, _, rfl, rfl⟩

end

namespace Session

section
variable {rules : Rules} {grammar : Grammar} {options : ReaderOptions} {tracked : Bool}
  {s₀ s s' : Session} {store : Store} {input : List Char} {far? : Option Farthest}

/-- What a reader in use does not match does not match where its parser is invoked, and what it
tells is what is recorded there. -/
theorem exists_derives_of_noMatch
    (hstart : start rules grammar options tracked = (.ok s₀, store)) (hreach : Reaches s₀ s)
    (h : s.use (fun reader => reader.parse input) = some (.error (.noMatch far?), s') ∨
      s.use (fun reader => reader.parsePrefix input) = some (.error (.noMatch far?), s')) :
    ∃ o failures, Derives rules input (.whole (grammar.closed rules)) 0 (.ok o) failures ∧
      o.matched = false ∧ far? = if tracked then Failure.farthest? failures else none := by
  obtain ⟨p, hr⟩ := exists_reader_of_start hstart
  rw [← hreach.reader?_eq] at hr
  obtain ⟨reader, L, hr', hb, hsound, -⟩ := (sound_start hstart).reaches hreach
  obtain rfl := Option.some.inj (hr'.symm.trans hr)
  have hprefix : ∃ store', Reader.parsePrefix ⟨p, options, tracked⟩ input s.store =
      some (.error (.noMatch far?), store') := by
    rcases h with h | h
    · exact Reader.exists_parsePrefix_of_parse ((exists_use_iff hr).1 ⟨s', h⟩)
    · exact (exists_use_iff hr).1 ⟨s', h⟩
  obtain ⟨step, failures, hd, hanswer⟩ := (Reader.parsePrefix_iff hb hsound).1 hprefix
  obtain ⟨htold, o, rfl, ho⟩ := Step.prefixAnswer_eq_noMatch hanswer.symm
  refine ⟨o, failures, hd, ho, ?_⟩
  rw [htold, Reader.told, Tracker.farthest?_recordAll]

/-- Where the parser fails on a fresh record, a tracked reader tells what is recorded. -/
theorem exists_parse_of_not_matched {reader : Reader} {o : Outcome Value}
    (hr : s.reader? = some reader) (htracked : reader.tracked = true)
    (h : s.reset.invoke input 0 = some (.ok o, s')) (ho : o.matched = false) :
    ∃ t, s.use (fun reader => reader.parse input) =
      some (.error (.noMatch s'.store.tracker.farthest?), t) := by
  simp only [Session.invoke, Session.use, Session.reset, hr, Option.map_eq_some_iff, Prod.exists,
    Prod.mk.injEq] at h
  obtain ⟨step, store, hinvoke, rfl, rfl⟩ := h
  have hfresh : reader.fresh s.store = s.store.resetTracker := if_pos htracked
  rw [← hfresh] at hinvoke
  refine (exists_use_iff hr).2 (Reader.exists_parse_iff.2
    ⟨_, Reader.exists_parsePrefix_iff.2 ⟨_, _, hinvoke, rfl⟩, ?_⟩)
  rw [if_pos htracked, Step.prefixAnswer_of_not_matched ho]
  rfl

/-- However the session of a fully labelled grammar has been used: where the parser fails on a fresh
record, a location is told that is not before the position it reports, and so it is where a tracked
reader does not match. -/
theorem failures_are_located (hrules : rules.FullyLabelled)
    (hgrammar : grammar.fullyLabelled = true)
    (hstart : start rules grammar options tracked = (.ok s₀, store)) (hreach : Reaches s₀ s)
    (input : List Char) :
    (∀ (position : Nat) (o : Outcome Value) (s' : Session),
      Text.isBoundary input position = true →
      s.reset.invoke input position = some (.ok o, s') → o.matched = false →
      ∃ far, s'.store.tracker.farthest? = some far ∧ far.Locates input o.next) ∧
    (tracked = true → ∀ (far? : Option Farthest) (s' : Session),
      s.use (fun reader => reader.parse input) = some (.error (.noMatch far?), s') ∨
        s.use (fun reader => reader.parsePrefix input) = some (.error (.noMatch far?), s') →
      ∃ far o s'', far? = some far ∧ s.reset.invoke input 0 = some (.ok o, s'') ∧
        o.matched = false ∧ far.Locates input o.next) := by
  have hc : (grammar.closed rules).FullyLabelled := .mk hgrammar fun _ ha => nomatch ha
  have hs : s.reset.Sound rules (grammar.closed rules) :=
    ((sound_start hstart).reaches hreach).uses .reset
  constructor
  · intro position o s' hp h ho
    obtain ⟨failures, hd, ht⟩ := hs.exists_derives h
    obtain ⟨far, hfar, hlocates⟩ := hd.locates hrules hc hp ho
    refine ⟨far, ?_, hlocates⟩
    rw [ht, ← hfar]
    exact Tracker.farthest?_recordAll failures
  · rintro rfl far? s' h
    obtain ⟨o, failures, hd, ho, rfl⟩ := exists_derives_of_noMatch hstart hreach h
    obtain ⟨far, hfar, hlocates⟩ := hd.locates hrules hc (by simp [Text.isBoundary]) ho
    obtain ⟨s'', h', -⟩ := hs.exists_invoke hd
    exact ⟨far, o, s'', by rw [if_pos rfl, hfar], h', ho, hlocates⟩

end

/-- A digit, or several terms in parentheses. -/
def bracketed : Grammar :=
  .recursive "term" false false
    (.choice [.sequence [.labelled "'('" (.literal "("), .var "term",
        .many (.sequence [.labelled "','" (.literal ","), .var "term"]),
        .labelled "')'" (.literal ")")],
      .labelled "digit" (.guarded (fun v => v != .str "0") (.charClass "0123456789" false))])

/-- Two parentheses that are not closed, of which the inner one is told. -/
theorem failures_are_located_bracketed :
    ∃ s s' t, bracketed.fullyLabelled = true ∧ (start [] bracketed {} true).1 = .ok s ∧
      s.reset.invoke "(1,(2".toList 0 = some (.ok (.failure 0), s') ∧
      s'.store.tracker.farthest? = some ⟨5, ["','", "')'"]⟩ ∧
      Farthest.Locates "(1,(2".toList 0 ⟨5, ["','", "')'"]⟩ ∧
      s.use (fun reader => reader.parse "(1,(2".toList) =
        some (.error (.noMatch (some ⟨5, ["','", "')'"]⟩)), t) ∧
      ∃ o s'', s.reset.invoke "(1,(2".toList 0 = some (.ok o, s'') ∧ o.matched = false ∧
        Farthest.Locates "(1,(2".toList o.next ⟨5, ["','", "')'"]⟩ := by
  let built := bracketed.build [] [] Store.empty
  let s := settle ⟨some { parser := .rule 0, tracked := true }, built.2⟩ built.2
  have hs : s.reset.invoke "(1,(2".toList 0 = some (_, _) :=
    @invoke_of_run s.reset _ _ _ 30 _ _ rfl rfl
  have hstart : start [] bracketed {} true = (.ok s, _) := rfl
  have hrules : Rules.FullyLabelled [] := fun _ ha => nomatch ha
  obtain ⟨hinvoke, hreader⟩ := failures_are_located hrules rfl hstart .refl "(1,(2".toList
  obtain ⟨far, hfar, hlocates⟩ := hinvoke 0 _ _ rfl hs rfl
  obtain rfl : ⟨5, ["','", "')'"]⟩ = far := Option.some.inj hfar
  obtain ⟨t, ht⟩ := exists_parse_of_not_matched rfl rfl hs rfl
  rw [hfar] at ht
  obtain ⟨_, o, s'', ⟨⟩, ho⟩ := hreader rfl _ t (.inl ht)
  exact ⟨s, _, t, rfl, rfl, hs, hfar, hlocates, ht, o, s'', ho⟩

end Session

end Descent
