import Descent.Proofs.Meaning.Follow

/-!
# Labels do not show in answers

Definitions that are the same but for labels answer the same everywhere
(`Grammar.Relabelled.answers_iff`), whatever they record. `Grammar.unlabelled` takes all labels away.
-/

namespace Descent

/-! ## Definitions without labels -/

namespace Grammar

mutual

/-- The definition without its labels. -/
def unlabelled : Grammar → Grammar
  | literal text => literal text
  | charClass set negate => charClass set negate
  | pattern expression ignoreCase => pattern expression ignoreCase
  | custom answer => custom answer
  | sequence parts => sequence (unlabelledAll parts)
  | choice alternatives => choice (unlabelledAll alternatives)
  | many body => many body.unlabelled
  | optional body => optional body.unlabelled
  | deferred body => deferred body.unlabelled
  | rule name => rule name
  | bind name definition body => bind name definition.unlabelled body.unlabelled
  | recursive name exposed probed body => recursive name exposed probed body.unlabelled
  | var name => var name
  | transform f body => transform f body.unlabelled
  | tryTransform f body => tryTransform f body.unlabelled
  | tag accepts body => tag accepts body.unlabelled
  | guarded accepts body => guarded accepts body.unlabelled
  | labelled _ body => body.unlabelled

def unlabelledAll : List Grammar → List Grammar
  | [] => []
  | g :: gs => g.unlabelled :: unlabelledAll gs

end

theorem unlabelledAll_eq_map (gs : List Grammar) : unlabelledAll gs = gs.map unlabelled := by
  induction gs with
  | nil => rfl
  | cons g gs ih => rw [unlabelledAll, ih, List.map_cons]

/-- The definitions are the same but for labels. -/
inductive Relabelled : Grammar → Grammar → Prop
  | literal (text : String) : Relabelled (.literal text) (.literal text)
  | charClass (set : String) (negate : Bool) :
      Relabelled (.charClass set negate) (.charClass set negate)
  | pattern (expression : String) (ignoreCase : Bool) :
      Relabelled (.pattern expression ignoreCase) (.pattern expression ignoreCase)
  | custom (answer : List Char → Nat → Step) : Relabelled (.custom answer) (.custom answer)
  | sequence {gs gs' : List Grammar} : gs.length = gs'.length →
      (∀ (i : Nat) g g', gs[i]? = some g → gs'[i]? = some g' → Relabelled g g') →
      Relabelled (.sequence gs) (.sequence gs')
  | choice {gs gs' : List Grammar} : gs.length = gs'.length →
      (∀ (i : Nat) g g', gs[i]? = some g → gs'[i]? = some g' → Relabelled g g') →
      Relabelled (.choice gs) (.choice gs')
  | many {g g' : Grammar} : Relabelled g g' → Relabelled (.many g) (.many g')
  | optional {g g' : Grammar} : Relabelled g g' → Relabelled (.optional g) (.optional g')
  | deferred {g g' : Grammar} : Relabelled g g' → Relabelled (.deferred g) (.deferred g')
  | rule (name : String) : Relabelled (.rule name) (.rule name)
  | bind {name : String} {g g' b b' : Grammar} : Relabelled g g' → Relabelled b b' →
      Relabelled (.bind name g b) (.bind name g' b')
  | recursive {name : String} {exposed probed : Bool} {g g' : Grammar} : Relabelled g g' →
      Relabelled (.recursive name exposed probed g) (.recursive name exposed probed g')
  | var (name : String) : Relabelled (.var name) (.var name)
  | transform {f : Value → Value} {g g' : Grammar} : Relabelled g g' →
      Relabelled (.transform f g) (.transform f g')
  | tryTransform {f : Value → Option Value} {g g' : Grammar} : Relabelled g g' →
      Relabelled (.tryTransform f g) (.tryTransform f g')
  | tag {accepts : Value → Bool} {g g' : Grammar} : Relabelled g g' →
      Relabelled (.tag accepts g) (.tag accepts g')
  | guarded {accepts : Value → Bool} {g g' : Grammar} : Relabelled g g' →
      Relabelled (.guarded accepts g) (.guarded accepts g')
  | left {label : String} {g g' : Grammar} : Relabelled g g' → Relabelled (.labelled label g) g'
  | right {label : String} {g g' : Grammar} : Relabelled g g' → Relabelled g (.labelled label g')

theorem Relabelled.symm {g g' : Grammar} (h : g.Relabelled g') : g'.Relabelled g := by
  induction h with
  | literal text => exact .literal text
  | charClass set negate => exact .charClass set negate
  | pattern expression ignoreCase => exact .pattern expression ignoreCase
  | custom answer => exact .custom answer
  | sequence hl _ ih => exact .sequence hl.symm fun i g g' hg hg' => ih i g' g hg' hg
  | choice hl _ ih => exact .choice hl.symm fun i g g' hg hg' => ih i g' g hg' hg
  | many _ ih => exact .many ih
  | optional _ ih => exact .optional ih
  | deferred _ ih => exact .deferred ih
  | rule name => exact .rule name
  | bind _ _ ih ih' => exact .bind ih ih'
  | recursive _ ih => exact .recursive ih
  | var name => exact .var name
  | transform _ ih => exact .transform ih
  | tryTransform _ ih => exact .tryTransform ih
  | tag _ ih => exact .tag ih
  | guarded _ ih => exact .guarded ih
  | left _ ih => exact .right ih
  | right _ ih => exact .left ih

mutual

theorem relabelled_unlabelled : ∀ g : Grammar, g.Relabelled g.unlabelled
  | .literal text => .literal text
  | .charClass set negate => .charClass set negate
  | .pattern expression ignoreCase => .pattern expression ignoreCase
  | .custom answer => .custom answer
  | .sequence gs => .sequence (by simp [unlabelledAll_eq_map]) (relabelled_unlabelledAll gs)
  | .choice gs => .choice (by simp [unlabelledAll_eq_map]) (relabelled_unlabelledAll gs)
  | .many g => .many (relabelled_unlabelled g)
  | .optional g => .optional (relabelled_unlabelled g)
  | .deferred g => .deferred (relabelled_unlabelled g)
  | .rule name => .rule name
  | .bind _ g b => .bind (relabelled_unlabelled g) (relabelled_unlabelled b)
  | .recursive _ _ _ g => .recursive (relabelled_unlabelled g)
  | .var name => .var name
  | .transform _ g => .transform (relabelled_unlabelled g)
  | .tryTransform _ g => .tryTransform (relabelled_unlabelled g)
  | .tag _ g => .tag (relabelled_unlabelled g)
  | .guarded _ g => .guarded (relabelled_unlabelled g)
  | .labelled _ g => .left (relabelled_unlabelled g)

theorem relabelled_unlabelledAll : ∀ (gs : List Grammar) (i : Nat) (g g' : Grammar),
    gs[i]? = some g → (unlabelledAll gs)[i]? = some g' → g.Relabelled g'
  | [], _, _, _, hg, _ => nomatch hg
  | g :: _, 0, _, _, hg, hg' => by
    cases hg
    cases hg'
    exact relabelled_unlabelled g
  | _ :: gs, i + 1, _, _, hg, hg' => relabelled_unlabelledAll gs i _ _ hg hg'

end

/-- A label on the right may be left off. -/
theorem Relabelled.of_labelled {label : String} {g g' : Grammar}
    (h : g.Relabelled (.labelled label g')) : g.Relabelled g' := by
  generalize hg : Grammar.labelled label g' = g'' at h
  induction h with
  | left _ ih => exact .left (ih hg)
  | right h _ =>
    cases hg
    exact h
  | _ => cases hg

/-- Labels do not keep a definition from being built. -/
theorem Relabelled.faultWith_eq {named named' : String → Option GrammarError}
    (hn : ∀ name, named name = named' name) {g g' : Grammar} (h : g.Relabelled g') :
    g.faultWith named = g'.faultWith named' := by
  have all : ∀ gs gs' : List Grammar, gs.length = gs'.length →
      (∀ (i : Nat) g g', gs[i]? = some g → gs'[i]? = some g' →
        g.faultWith named = g'.faultWith named') → faultAll named gs = faultAll named' gs' := by
    intro gs
    induction gs with
    | nil =>
      intro gs' hl _
      obtain rfl := List.length_eq_zero_iff.1 hl.symm
      rfl
    | cons g gs ih =>
      intro gs' hl h
      cases gs' with
      | nil => cases hl
      | cons g' gs' =>
        rw [faultAll, faultAll, h 0 g g' rfl rfl,
          ih gs' (Nat.succ.inj hl) fun i a a' ha ha' => h (i + 1) a a' ha ha']
  induction h with
  | literal | charClass | custom | deferred | var | pattern => rfl
  | rule name => exact hn name
  | sequence hl _ ih | choice hl _ ih => exact all _ _ hl ih
  | bind _ _ ih ih' => rw [faultWith, faultWith, ih, ih']
  | many _ ih | optional _ ih | recursive _ ih | transform _ ih | tryTransform _ ih | tag _ ih
  | guarded _ ih | left _ ih | right _ ih => exact ih

end Grammar

namespace Rules

/-- The rules without their labels. -/
def unlabelled (rules : Rules) : Rules := rules.map fun a => (a.1, a.2.unlabelled)

/-- The rules have the same names, and definitions that are the same but for labels. -/
structure Relabelled (rules rules' : Rules) : Prop where
  length_eq : rules.length = rules'.length
  lookup (name : String) :
    Option.Rel Grammar.Relabelled (rules.lookup name) (rules'.lookup name)

variable {rules rules' : Rules}

theorem Relabelled.symm (h : rules.Relabelled rules') : rules'.Relabelled rules := by
  refine ⟨h.length_eq.symm, fun name => ?_⟩
  have hl := h.lookup name
  revert hl
  generalize rules.lookup name = a
  generalize rules'.lookup name = b
  rintro (hg | _)
  · exact .some hg.symm
  · exact .none

theorem relabelled_unlabelled (rules : Rules) : rules.Relabelled rules.unlabelled := by
  refine ⟨by simp [unlabelled], fun name => ?_⟩
  induction rules with
  | nil => exact .none
  | cons a rules ih =>
    rw [unlabelled, List.map_cons, List.lookup_cons, List.lookup_cons]
    cases name == a.1 with
    | true => exact .some (Grammar.relabelled_unlabelled a.2)
    | false => exact ih

theorem Relabelled.fault_eq (h : rules.Relabelled rules') {g g' : Grammar}
    (hg : g.Relabelled g') : g.fault rules = g'.fault rules' := by
  refine hg.faultWith_eq fun name => ?_
  rw [h.length_eq]
  generalize rules'.length = depth
  induction depth generalizing name with
  | zero => rfl
  | succ depth ih =>
    have hl := h.lookup name
    rw [Grammar.faultNamed, Grammar.faultNamed]
    revert hl
    generalize rules.lookup name = a
    generalize rules'.lookup name = b
    rintro (hg | _)
    · exact hg.faultWith_eq ih
    · rfl

end Rules

/-- The definitions are the same but for labels, and so are those in scope. -/
inductive Closure.Relabelled : Closure → Closure → Prop
  | mk {g g' : Grammar} {d : Nat} {ρ ρ' : List (String × Closure)} : g.Relabelled g' →
      (∀ name, Option.Rel Relabelled (ρ.lookup name) (ρ'.lookup name)) →
      Relabelled ⟨g, d, ρ⟩ ⟨g', d, ρ'⟩

/-! ## Answers -/

section
variable {rules rules' : Rules} {input : List Char} {position : Nat} {step : Step}

/-- The task answers the step, whatever it records. -/
def Task.Answers (rules : Rules) (input : List Char) (position : Nat) (step : Step)
    (task : Task) : Prop :=
  ∃ failures, Derives rules input task position step failures

/-- A labelled definition answers what its body answers. -/
theorem Task.Answers.labelled {c : Closure} {label : String} {g : Grammar}
    (hg : c.grammar = .labelled label g)
    (h : Answers rules input position step (.whole (c.inner g))) :
    Answers rules input position step (.whole c) := by
  obtain ⟨failures, h⟩ := h
  cases step with
  | error error => exact ⟨failures, .body_error (by rw [hg]; rfl) h⟩
  | ok o =>
    cases ho : o.matched with
    | true => exact ⟨failures, .labelled_match hg h ho⟩
    | false => exact ⟨_, .labelled_fails hg h ho⟩

theorem relabelled_cons {name : String} {c c' : Closure} {ρ ρ' : List (String × Closure)}
    (hc : c.Relabelled c')
    (hρ : ∀ name, Option.Rel Closure.Relabelled (ρ.lookup name) (ρ'.lookup name))
    (name' : String) :
    Option.Rel Closure.Relabelled (((name, c) :: ρ).lookup name')
      (((name, c') :: ρ').lookup name') := by
  rw [List.lookup_cons, List.lookup_cons]
  cases name' == name with
  | true => exact .some hc
  | false => exact hρ name'

/-- What a name means is the same but for labels. -/
theorem Closure.Means.relabelled (hr : rules.Relabelled rules') {c c₁ : Closure}
    (hm : c.Means rules c₁) {g' : Grammar} {ρ' : List (String × Closure)}
    (hg : c.grammar.Relabelled g') (hl : ∀ label g, g' ≠ .labelled label g)
    (hρ : ∀ name, Option.Rel Closure.Relabelled (c.scope.lookup name) (ρ'.lookup name)) :
    ∃ c₁', (Closure.mk g' c.depth ρ').Means rules' c₁' ∧ c₁.Relabelled c₁' := by
  cases hm with
  | @var name d ρ c₁ hc =>
    cases hg with
    | right _ => exact absurd rfl (hl _ _)
    | var _ =>
      have h := hρ name
      dsimp only at h
      rw [hc] at h
      generalize hc' : ρ'.lookup name = a at h
      cases h with
      | some h => exact ⟨_, .var hc', h⟩
  | bind =>
    cases hg with
    | right _ => exact absurd rfl (hl _ _)
    | bind hg hb => exact ⟨_, .bind, .mk hb (relabelled_cons (.mk hg hρ) hρ)⟩
  | @rule name definition d ρ hd =>
    cases hg with
    | right _ => exact absurd rfl (hl _ _)
    | rule _ =>
      have h := hr.lookup name
      rw [hd] at h
      generalize hd' : rules'.lookup name = a at h
      cases h with
      | some h => exact ⟨_, .rule hd', .mk h hρ⟩
  | recursive =>
    cases hg with
    | right _ => exact absurd rfl (hl _ _)
    | recursive hg => exact ⟨_, .recursive, .mk hg (relabelled_cons (.mk (.recursive hg) hρ) hρ)⟩
  | deferred hf =>
    cases hg with
    | right _ => exact absurd rfl (hl _ _)
    | deferred hg =>
      rw [hr.fault_eq hg] at hf
      rw [hr.length_eq]
      exact ⟨_, .deferred hf, .mk hg hρ⟩

theorem Closure.Dangles.relabelled (hr : rules.Relabelled rules') {c : Closure}
    {error : GrammarError} (hd : c.Dangles rules error) {g' : Grammar}
    {ρ' : List (String × Closure)} (hg : c.grammar.Relabelled g')
    (hl : ∀ label g, g' ≠ .labelled label g)
    (hρ : ∀ name, Option.Rel Closure.Relabelled (c.scope.lookup name) (ρ'.lookup name)) :
    (Closure.mk g' c.depth ρ').Dangles rules' error := by
  cases hd with
  | @var name d ρ hc =>
    cases hg with
    | right _ => exact absurd rfl (hl _ _)
    | var _ =>
      have h := hρ name
      dsimp only at h
      rw [hc] at h
      generalize hc' : ρ'.lookup name = a at h
      cases h with
      | none => exact .var hc'
  | @rule name d ρ hd =>
    cases hg with
    | right _ => exact absurd rfl (hl _ _)
    | rule _ =>
      refine .rule (hd.imp_right fun hd => ?_)
      have h := hr.lookup name
      rw [hd] at h
      generalize hd' : rules'.lookup name = a at h ⊢
      cases h with
      | none => rfl
  | deferred hf =>
    cases hg with
    | right _ => exact absurd rfl (hl _ _)
    | deferred hg =>
      rw [hr.fault_eq hg] at hf
      exact .deferred hf

/-- It is enough to look at definitions that are not labelled. -/
theorem answers_of_bare {c : Closure}
    (h : ∀ g' ρ', c.grammar.Relabelled g' → (∀ label g, g' ≠ .labelled label g) →
      (∀ name, Option.Rel Closure.Relabelled (c.scope.lookup name) (ρ'.lookup name)) →
      Task.Answers rules' input position step (.whole ⟨g', c.depth, ρ'⟩))
    {task : Task} (ht : Task.Related Closure.Relabelled (.whole c) task) :
    task.Answers rules' input position step := by
  cases ht with
  | whole hc =>
    cases hc with
    | @mk g g' d ρ ρ' hg hρ =>
      induction hn : sizeOf g' using Nat.strongRecOn generalizing g' with
      | ind n ih =>
        by_cases hl : ∃ label g'', g' = .labelled label g''
        · obtain ⟨label, g'', rfl⟩ := hl
          refine .labelled rfl (ih (sizeOf g'') ?_ hg.of_labelled rfl)
          subst hn
          simp +arith
        · exact h g' ρ' hg (fun label g'' heq => hl ⟨label, g'', heq⟩) hρ

theorem Reshapes.relabelled {g body g' : Grammar} {o o' : Outcome Value}
    (hr : Reshapes position g body o o') (hg : g.Relabelled g')
    (hl : ∀ label g, g' ≠ .labelled label g) :
    ∃ body', body.Relabelled body' ∧ Reshapes position g' body' o o' := by
  have hbody := hr.body?_eq
  cases hg with
  | right _ => exact absurd rfl (hl _ _)
  | optional hb =>
    cases hbody
    exact ⟨_, hb, reshapes_optional_iff.2 (reshapes_optional_iff.1 hr)⟩
  | transform hb =>
    cases hbody
    exact ⟨_, hb, reshapes_transform_iff.2 (reshapes_transform_iff.1 hr)⟩
  | tryTransform hb =>
    cases hbody
    exact ⟨_, hb, reshapes_tryTransform_iff.2 (reshapes_tryTransform_iff.1 hr)⟩
  | tag hb =>
    cases hbody
    exact ⟨_, hb, reshapes_tag_iff.2 (reshapes_tag_iff.1 hr)⟩
  | guarded hb =>
    cases hbody
    exact ⟨_, hb, reshapes_guarded_iff.2 (reshapes_guarded_iff.1 hr)⟩
  | _ => cases hr

/-- A combinator that shapes, or only watches, one body stands on the other side as well, unless it
is a label there. -/
theorem Grammar.Relabelled.body? {g body g' : Grammar} (hb : g.body? = some body)
    (hg : g.Relabelled g') (hl : ∀ label g, g' ≠ .labelled label g) :
    body.Relabelled g' ∨ ∃ body', g'.body? = some body' ∧ body.Relabelled body' := by
  cases hg with
  | right _ => exact absurd rfl (hl _ _)
  | optional h | transform h | tryTransform h | tag h | guarded h =>
    cases hb
    exact .inr ⟨_, rfl, h⟩
  | left h =>
    cases hb
    exact .inl h
  | _ => cases hb

theorem forall₂_relabelled {c : Closure} {gs gs' : List Grammar} {ρ' : List (String × Closure)}
    (hl : gs.length = gs'.length)
    (hg : ∀ (i : Nat) g g', gs[i]? = some g → gs'[i]? = some g' → g.Relabelled g')
    (hρ : ∀ name, Option.Rel Closure.Relabelled (c.scope.lookup name) (ρ'.lookup name)) :
    List.Forall₂ Closure.Relabelled (gs.map c.inner)
      (gs'.map (Closure.inner ⟨.sequence [], c.depth, ρ'⟩)) := by
  rw [List.forall₂_map_left_iff, List.forall₂_map_right_iff, List.forall₂_iff_get]
  exact ⟨hl, fun i h h' => .mk (hg i _ _ (by simp) (by simp)) hρ⟩

/-- What a task answers, the same task with other labels answers. -/
theorem Derives.relabelled (hr : rules.Relabelled rules') {task : Task} {failures : List Failure}
    (h : Derives rules input task position step failures) :
    ∀ task', Task.Related Closure.Relabelled task task' →
      task'.Answers rules' input position step := by
  induction h with
  | @recognizes c position step h =>
    refine fun task' => answers_of_bare fun g' ρ' hg hl _ => ⟨[], .recognizes ?_⟩
    -- a leaf is the same leaf on the other side
    obtain ⟨g, d, ρ⟩ := c
    cases hg with
    | literal _ | charClass _ _ | pattern _ _ | custom _ => exact h
    | right _ => exact absurd rfl (hl _ _)
    | _ => cases h
  | means hm _ ih =>
    refine fun task' => answers_of_bare fun g' ρ' hg hl hρ => ?_
    obtain ⟨c₁', hm', hc⟩ := hm.relabelled hr hg hl hρ
    obtain ⟨failures, hd⟩ := ih _ (.whole hc)
    exact ⟨failures, .means hm' hd⟩
  | dangles hd =>
    exact fun task' => answers_of_bare fun g' ρ' hg hl hρ =>
      ⟨[], .dangles (hd.relabelled hr hg hl hρ)⟩
  | reshapes hshape _ ih =>
    refine fun task' => answers_of_bare fun g' ρ' hg hl hρ => ?_
    obtain ⟨body', hb, hshape'⟩ := hshape.relabelled hg hl
    obtain ⟨failures, hd⟩ := ih _ (.whole (.mk hb hρ))
    exact ⟨failures, .reshapes (c := ⟨g', _, ρ'⟩) hshape' hd⟩
  | labelled_match hc _ _ ih | labelled_fails hc _ _ ih =>
    refine fun task' => answers_of_bare fun g' ρ' hg hl hρ => ?_
    rw [hc] at hg
    -- the label stands on this side only, and the other side is related to what is under it
    cases hg with
    | left hg => exact ih _ (.whole (.mk hg hρ))
    | right _ => exact absurd rfl (hl _ _)
  | body_error hb _ ih =>
    refine fun task' => answers_of_bare fun g' ρ' hg hl hρ => ?_
    obtain hbody | ⟨body', hb', hbody⟩ := hg.body? hb hl
    · exact ih _ (.whole (.mk hbody hρ)) -- from under a label
    · obtain ⟨failures, hd⟩ := ih _ (.whole (.mk hbody hρ))
      exact ⟨failures, .body_error (c := ⟨g', _, ρ'⟩) hb' hd⟩
  | sequence hc _ ih =>
    refine fun task' => answers_of_bare fun g' ρ' hg hl hρ => ?_
    rw [hc] at hg
    cases hg with
    | sequence hlen hgs =>
      obtain ⟨failures, hd⟩ := ih _ (.parts (forall₂_relabelled hlen hgs hρ))
      exact ⟨failures, .sequence rfl hd⟩
    | right _ => exact absurd rfl (hl _ _)
  | choice hc _ ih =>
    refine fun task' => answers_of_bare fun g' ρ' hg hl hρ => ?_
    rw [hc] at hg
    cases hg with
    | choice hlen hgs =>
      obtain ⟨failures, hd⟩ := ih _ (.alternatives (forall₂_relabelled hlen hgs hρ))
      exact ⟨failures, .choice rfl hd⟩
    | right _ => exact absurd rfl (hl _ _)
  | many hc _ ih =>
    refine fun task' => answers_of_bare fun g' ρ' hg hl hρ => ?_
    rw [hc] at hg
    cases hg with
    | many hb =>
      obtain ⟨failures, hd⟩ := ih _ (.iterations (.mk hb hρ))
      exact ⟨failures, .many rfl hd⟩
    | right _ => exact absurd rfl (hl _ _)
  | parts_nil =>
    rintro _ (_ | hcs)
    cases hcs
    exact ⟨[], .parts_nil⟩
  | parts_cons _ _ ih ih' =>
    rintro _ (_ | hcs)
    obtain ⟨c', cs', hc, hcs', rfl⟩ := List.forall₂_cons_left_iff.1 hcs
    obtain ⟨failures, hd⟩ := ih _ (.whole hc)
    obtain ⟨failures', hd'⟩ := ih' _ (.parts hcs')
    exact ⟨_, .parts_cons hd hd'⟩
  | parts_fails _ ho ih =>
    rintro _ (_ | hcs)
    obtain ⟨c', cs', hc, -, rfl⟩ := List.forall₂_cons_left_iff.1 hcs
    obtain ⟨failures, hd⟩ := ih _ (.whole hc)
    exact ⟨_, .parts_fails hd ho⟩
  | parts_error _ ih =>
    rintro _ (_ | hcs)
    obtain ⟨c', cs', hc, -, rfl⟩ := List.forall₂_cons_left_iff.1 hcs
    obtain ⟨failures, hd⟩ := ih _ (.whole hc)
    exact ⟨_, .parts_error hd⟩
  | alternatives_nil =>
    rintro _ (_ | _ | hcs)
    cases hcs
    exact ⟨[], .alternatives_nil⟩
  | alternatives_match _ ho ih =>
    rintro _ (_ | _ | hcs)
    obtain ⟨c', cs', hc, -, rfl⟩ := List.forall₂_cons_left_iff.1 hcs
    obtain ⟨failures, hd⟩ := ih _ (.whole hc)
    exact ⟨_, .alternatives_match hd ho⟩
  | alternatives_next _ ho _ ih ih' =>
    rintro _ (_ | _ | hcs)
    obtain ⟨c', cs', hc, hcs', rfl⟩ := List.forall₂_cons_left_iff.1 hcs
    obtain ⟨failures, hd⟩ := ih _ (.whole hc)
    obtain ⟨failures', hd'⟩ := ih' _ (.alternatives hcs')
    exact ⟨_, .alternatives_next hd ho hd'⟩
  | alternatives_error _ ih =>
    rintro _ (_ | _ | hcs)
    obtain ⟨c', cs', hc, -, rfl⟩ := List.forall₂_cons_left_iff.1 hcs
    obtain ⟨failures, hd⟩ := ih _ (.whole hc)
    exact ⟨_, .alternatives_error hd⟩
  | iterations_stop _ ho ih =>
    rintro _ (_ | _ | _ | hc)
    obtain ⟨failures, hd⟩ := ih _ (.whole hc)
    exact ⟨_, .iterations_stop hd ho⟩
  | iterations_next _ hn _ ih ih' =>
    rintro _ (_ | _ | _ | hc)
    obtain ⟨failures, hd⟩ := ih _ (.whole hc)
    obtain ⟨failures', hd'⟩ := ih' _ (.iterations hc)
    exact ⟨_, .iterations_next hd hn hd'⟩
  | iterations_stall _ ih =>
    rintro _ (_ | _ | _ | hc)
    obtain ⟨failures, hd⟩ := ih _ (.whole hc)
    exact ⟨_, .iterations_stall hd⟩
  | iterations_error _ ih =>
    rintro _ (_ | _ | _ | hc)
    obtain ⟨failures, hd⟩ := ih _ (.whole hc)
    exact ⟨_, .iterations_error hd⟩

/-- A grammar answers the same with other labels. -/
theorem Grammar.Relabelled.answers_iff (hr : rules.Relabelled rules') {g g' : Grammar}
    (hg : g.Relabelled g') :
    g.Answers rules input position step ↔ g'.Answers rules' input position step := by
  have key : ∀ {rules rules' : Rules} {g g' : Grammar}, rules.Relabelled rules' →
      g.Relabelled g' → g.Answers rules input position step →
      g'.Answers rules' input position step := by
    rintro rules rules' g g' hr hg ⟨failures, hd⟩
    refine hd.relabelled hr _ (.whole ?_)
    rw [Grammar.closed, Grammar.closed, hr.length_eq]
    exact .mk hg fun _ => .none
  exact ⟨key hr hg, key hr.symm hg.symm⟩

end

end Descent
