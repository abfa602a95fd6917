import Descent.Proofs.Meaning.Reading

/-!
# What a failure reports does not matter

Two steps are similar if they are one error, one match or any two failures (`Step.Similar`). Where
one definition stands for another that answers similarly and records the same, all around it answers
similarly and records the same (`Derives.simulated`). A tag and a guard with one predicate are such
a pair, since they differ in what they report of a refused match only.
-/

namespace Descent

/-! ## Similar steps -/

/-- The same error, the same match, or two failures. -/
inductive Step.Similar : Step → Step → Prop
  | error (error : GrammarError) : Similar (.error error) (.error error)
  | success (v : Value) (next : Nat) : Similar (.ok (.success v next)) (.ok (.success v next))
  | fails {o o' : Outcome Value} : o.matched = false → o'.matched = false →
      Similar (.ok o) (.ok o')

namespace Step.Similar

theorem refl (step : Step) : step.Similar step := by
  match step with
  | .error e => exact .error e
  | .ok (.success v next) => exact .success v next
  | .ok (.failure next) => exact .fails rfl rfl
  | .ok (.rejected v next) => exact .fails rfl rfl

/-- A value in front of those of a match. -/
theorem cons {step step' : Step} (h : step.Similar step') (v : Value) :
    (step.cons v).Similar (step'.cons v) := by
  cases h with
  | error e => exact .error e
  | success w next => exact .refl _
  | @fails o o' ho ho' =>
    have hcons : ∀ o : Outcome Value, o.matched = false → Step.cons v (.ok o) = .ok o := by
      intro o ho
      cases o with
      | success w next => cases ho
      | failure next => rfl
      | rejected w next => rfl
    rw [hcons o ho, hcons o' ho']
    exact .fails ho ho'

end Step.Similar

/-- A reader does not tell similar steps apart. -/
theorem Step.Similar.prefixAnswer_eq {step step' : Step} (h : step.Similar step')
    (farthest? : Option Farthest) :
    step.prefixAnswer farthest? = step'.prefixAnswer farthest? := by
  cases h with
  | error _ => rfl
  | success _ _ => rfl
  | fails ho ho' => rw [prefixAnswer_of_not_matched ho, prefixAnswer_of_not_matched ho']

/-- Wherever `c` answers, `c'` answers similarly and records the same. -/
def Closure.Simulates (rules rules' : Rules) (c c' : Closure) : Prop :=
  ∀ (input : List Char) (position : Nat) (step : Step) (failures : List Failure),
    Derives rules input (.whole c) position step failures →
    ∃ step', Derives rules' input (.whole c') position step' failures ∧ step.Similar step'

/-! ## Alike definitions -/

/-- The definitions are the same but for tags in place of guards and guards in place of tags. -/
inductive Grammar.Alike : Grammar → Grammar → Prop
  | literal (text : String) : Alike (.literal text) (.literal text)
  | charClass (set : String) (negate : Bool) : Alike (.charClass set negate) (.charClass set negate)
  | pattern (expression : String) (ignoreCase : Bool) :
      Alike (.pattern expression ignoreCase) (.pattern expression ignoreCase)
  | custom (answer : List Char → Nat → Step) : Alike (.custom answer) (.custom answer)
  | sequence {gs gs' : List Grammar} : gs.length = gs'.length →
      (∀ (i : Nat) g g', gs[i]? = some g → gs'[i]? = some g' → Alike g g') →
      Alike (.sequence gs) (.sequence gs')
  | choice {gs gs' : List Grammar} : gs.length = gs'.length →
      (∀ (i : Nat) g g', gs[i]? = some g → gs'[i]? = some g' → Alike g g') →
      Alike (.choice gs) (.choice gs')
  | many {g g' : Grammar} : Alike g g' → Alike (.many g) (.many g')
  | optional {g g' : Grammar} : Alike g g' → Alike (.optional g) (.optional g')
  | deferred {g g' : Grammar} : Alike g g' → Alike (.deferred g) (.deferred g')
  | rule (name : String) : Alike (.rule name) (.rule name)
  | bind {name : String} {g g' b b' : Grammar} : Alike g g' → Alike b b' →
      Alike (.bind name g b) (.bind name g' b')
  | recursive {name : String} {exposed probed : Bool} {g g' : Grammar} : Alike g g' →
      Alike (.recursive name exposed probed g) (.recursive name exposed probed g')
  | var (name : String) : Alike (.var name) (.var name)
  | transform {f : Value → Value} {g g' : Grammar} : Alike g g' →
      Alike (.transform f g) (.transform f g')
  | tryTransform {f : Value → Option Value} {g g' : Grammar} : Alike g g' →
      Alike (.tryTransform f g) (.tryTransform f g')
  | tag {accepts : Value → Bool} {g g' : Grammar} : Alike g g' →
      Alike (.tag accepts g) (.tag accepts g')
  | guarded {accepts : Value → Bool} {g g' : Grammar} : Alike g g' →
      Alike (.guarded accepts g) (.guarded accepts g')
  | tag_guarded {accepts : Value → Bool} {g g' : Grammar} : Alike g g' →
      Alike (.tag accepts g) (.guarded accepts g')
  | guarded_tag {accepts : Value → Bool} {g g' : Grammar} : Alike g g' →
      Alike (.guarded accepts g) (.tag accepts g')
  | labelled {label : String} {g g' : Grammar} : Alike g g' →
      Alike (.labelled label g) (.labelled label g')

namespace Grammar

theorem Alike.symm {g g' : Grammar} (h : g.Alike g') : g'.Alike g := by
  induction h with
  | literal text => exact .literal text
  | charClass set negate => exact .charClass set negate
  | pattern expression ignoreCase => exact .pattern expression ignoreCase
  | custom answer => exact .custom answer
  | sequence hl _ ih => exact .sequence hl.symm fun i g g' hg hg' => ih i g' g hg' hg
  | choice hl _ ih => exact .choice hl.symm fun i g g' hg hg' => ih i g' g hg' hg
  | many _ ih => exact .many ih
  | optional _ ih => exact .optional ih
  | deferred _ ih => exact .deferred ih
  | rule name => exact .rule name
  | bind _ _ ih ih' => exact .bind ih ih'
  | recursive _ ih => exact .recursive ih
  | var name => exact .var name
  | transform _ ih => exact .transform ih
  | tryTransform _ ih => exact .tryTransform ih
  | tag _ ih => exact .tag ih
  | guarded _ ih => exact .guarded ih
  | tag_guarded _ ih => exact .guarded_tag ih
  | guarded_tag _ ih => exact .tag_guarded ih
  | labelled _ ih => exact .labelled ih

mutual

theorem Alike.refl : ∀ g : Grammar, g.Alike g
  | .literal text => .literal text
  | .charClass set negate => .charClass set negate
  | .pattern expression ignoreCase => .pattern expression ignoreCase
  | .custom answer => .custom answer
  | .sequence gs => .sequence rfl fun _ _ _ hg hg' =>
    Option.some.inj (hg.symm.trans hg') ▸ Alike.refl_of_mem gs _ (List.mem_of_getElem? hg)
  | .choice gs => .choice rfl fun _ _ _ hg hg' =>
    Option.some.inj (hg.symm.trans hg') ▸ Alike.refl_of_mem gs _ (List.mem_of_getElem? hg)
  | .many g => .many (Alike.refl g)
  | .optional g => .optional (Alike.refl g)
  | .deferred g => .deferred (Alike.refl g)
  | .rule name => .rule name
  | .bind _ g b => .bind (Alike.refl g) (Alike.refl b)
  | .recursive _ _ _ g => .recursive (Alike.refl g)
  | .var name => .var name
  | .transform _ g => .transform (Alike.refl g)
  | .tryTransform _ g => .tryTransform (Alike.refl g)
  | .tag _ g => .tag (Alike.refl g)
  | .guarded _ g => .guarded (Alike.refl g)
  | .labelled _ g => .labelled (Alike.refl g)

theorem Alike.refl_of_mem : ∀ (gs : List Grammar), ∀ g ∈ gs, g.Alike g
  | [], _, hg => nomatch hg
  | g :: gs, g', hg => by
    rcases List.mem_cons.1 hg with heq | hg
    · exact heq ▸ Alike.refl g
    · exact Alike.refl_of_mem gs g' hg

end

/-- Alike definitions fail to build alike. -/
theorem Alike.faultWith_eq {named named' : String → Option GrammarError}
    (hn : ∀ name, named name = named' name) {g g' : Grammar} (h : g.Alike g') :
    g.faultWith named = g'.faultWith named' := by
  have all : ∀ gs gs' : List Grammar, gs.length = gs'.length →
      (∀ (i : Nat) g g', gs[i]? = some g → gs'[i]? = some g' →
        g.faultWith named = g'.faultWith named') → faultAll named gs = faultAll named' gs' := by
    intro gs
    induction gs with
    | nil =>
      intro gs' hl _
      obtain rfl := List.length_eq_zero_iff.1 hl.symm
      rfl
    | cons g gs ih =>
      intro gs' hl h
      cases gs' with
      | nil => cases hl
      | cons g' gs' =>
        rw [faultAll, faultAll, h 0 g g' rfl rfl,
          ih gs' (Nat.succ.inj hl) fun i a a' ha ha' => h (i + 1) a a' ha ha']
  induction h with
  | literal | charClass | custom | deferred | var => rfl
  | pattern expression ignoreCase => rfl
  | rule name => exact hn name
  | sequence hl _ ih | choice hl _ ih => exact all _ _ hl ih
  | bind _ _ ih ih' => rw [faultWith, faultWith, ih, ih']
  | many _ ih | optional _ ih | recursive _ ih | transform _ ih | tryTransform _ ih | tag _ ih
  | guarded _ ih | tag_guarded _ ih | guarded_tag _ ih | labelled _ ih => exact ih

end Grammar

/-- The rules have the same names, and their definitions are alike. -/
def Rules.Alike (rules rules' : Rules) : Prop :=
  List.Forall₂ (fun a b => a.1 = b.1 ∧ a.2.Alike b.2) rules rules'

namespace Rules

variable {rules rules' : Rules}

theorem Alike.refl (rules : Rules) : rules.Alike rules :=
  List.forall₂_same.2 fun a _ => ⟨rfl, .refl a.2⟩

theorem Alike.symm (h : rules.Alike rules') : rules'.Alike rules :=
  List.Forall₂.flip (h.imp fun _ _ hab => ⟨hab.1.symm, hab.2.symm⟩)

theorem Alike.lookup (h : rules.Alike rules') (name : String) :
    (rules.lookup name = none ∧ rules'.lookup name = none) ∨
      ∃ g g', rules.lookup name = some g ∧ rules'.lookup name = some g' ∧ g.Alike g' := by
  induction h with
  | nil => exact .inl ⟨rfl, rfl⟩
  | @cons a b rules rules' hab _ ih =>
    obtain ⟨m, g⟩ := a
    obtain ⟨n, g'⟩ := b
    obtain ⟨rfl, hg⟩ : m = n ∧ g.Alike g' := hab
    by_cases hn : name = m
    · subst hn
      exact .inr ⟨g, g', by simp, by simp, hg⟩
    · have hne : (name == m) = false := by simpa using hn
      simpa only [List.lookup_cons, hne] using ih

theorem Alike.fault_eq (h : rules.Alike rules') {g g' : Grammar} (hg : g.Alike g') :
    g.fault rules = g'.fault rules' := by
  refine hg.faultWith_eq fun name => ?_
  rw [h.length_eq]
  generalize rules'.length = depth
  induction depth generalizing name with
  | zero => rfl
  | succ depth ih =>
    obtain ⟨hl, hl'⟩ | ⟨g, g', hl, hl', hg⟩ := h.lookup name
    · simp only [Grammar.faultNamed, hl, hl']
    · simp only [Grammar.faultNamed, hl, hl']
      exact hg.faultWith_eq ih

end Rules

/-! ## Alike closures -/

mutual

/-- The definitions are alike, or the second answers as the first does. -/
inductive Closure.Alike (rules rules' : Rules) : Closure → Closure → Prop
  | same {g g' : Grammar} {d : Nat} {ρ ρ' : List (String × Closure)} : g.Alike g' →
      ScopeAlike rules rules' ρ ρ' → Closure.Alike rules rules' ⟨g, d, ρ⟩ ⟨g', d, ρ'⟩
  | simulates {c c' : Closure} : c.Simulates rules rules' c' →
      Closure.Alike rules rules' c c'

/-- The same names are in scope, with meanings that are alike. -/
inductive ScopeAlike (rules rules' : Rules) :
    List (String × Closure) → List (String × Closure) → Prop
  | nil : ScopeAlike rules rules' [] []
  | cons {name : String} {c c' : Closure} {ρ ρ' : List (String × Closure)} :
      Closure.Alike rules rules' c c' → ScopeAlike rules rules' ρ ρ' →
      ScopeAlike rules rules' ((name, c) :: ρ) ((name, c') :: ρ')

end

theorem ScopeAlike.lookup {rules rules' : Rules} {ρ ρ' : List (String × Closure)}
    (h : ScopeAlike rules rules' ρ ρ') (name : String) :
    (ρ.lookup name = none ∧ ρ'.lookup name = none) ∨
      ∃ c c', ρ.lookup name = some c ∧ ρ'.lookup name = some c' ∧
        Closure.Alike rules rules' c c' := by
  induction ρ generalizing ρ' with
  | nil =>
    cases h
    exact .inl ⟨rfl, rfl⟩
  | cons a ρ ih =>
    cases h with
    | @cons m c c' _ ρ' hc hρ =>
      by_cases hn : name = m
      · subst hn
        exact .inr ⟨c, c', by simp, by simp, hc⟩
      · have hne : (name == m) = false := by simpa using hn
        simpa only [List.lookup_cons, hne] using ih hρ

/-! ## Simulation -/

section
variable {rules rules' : Rules} {input : List Char} {position : Nat} {step : Step}
  {failures : List Failure}

/-- The definition answers similarly, and records the failures. -/
def AnswersLike (rules' : Rules) (input : List Char) (position : Nat) (step : Step)
    (failures : List Failure) (task : Task) : Prop :=
  ∃ step', Derives rules' input task position step' failures ∧ step.Similar step'

/-- Every task that is alike answers similarly. -/
def Simulated (rules rules' : Rules) (input : List Char) (position : Nat) (step : Step)
    (failures : List Failure) : Task → Prop
  | .whole c => ∀ c', Closure.Alike rules rules' c c' →
    AnswersLike rules' input position step failures (.whole c')
  | .parts cs => ∀ cs', List.Forall₂ (Closure.Alike rules rules') cs cs' →
    AnswersLike rules' input position step failures (.parts cs')
  | .alternatives cs => ∀ cs', List.Forall₂ (Closure.Alike rules rules') cs cs' →
    AnswersLike rules' input position step failures (.alternatives cs')
  | .iterations c => ∀ c', Closure.Alike rules rules' c c' →
    AnswersLike rules' input position step failures (.iterations c')

/-- A definition that is simulated as it is needs no further look. -/
theorem simulated_whole {c : Closure} (h : Derives rules input (.whole c) position step failures)
    (hsame : ∀ g' ρ', c.grammar.Alike g' → ScopeAlike rules rules' c.scope ρ' →
      AnswersLike rules' input position step failures (.whole ⟨g', c.depth, ρ'⟩)) :
    Simulated rules rules' input position step failures (.whole c) := by
  intro c' hc
  cases hc with
  | same hg hρ => exact hsame _ _ hg hρ
  | simulates hs => exact hs input position step failures h

theorem simulated_of_recognizes {c : Closure} (h : Recognizes input position c.grammar step) :
    Simulated rules rules' input position step [] (.whole c) := by
  refine simulated_whole (.recognizes h) fun g' ρ' hg _ => ⟨step, .recognizes ?_, .refl step⟩
  obtain ⟨g, d, ρ⟩ := c
  cases hg with
  | literal _ | charClass _ _ | pattern _ _ | custom _ => exact h
  | _ => cases h

theorem simulated_of_means (hr : rules.Alike rules') {c c' : Closure}
    (hm : c.Means rules c') (hd : Derives rules input (.whole c') position step failures)
    (ih : Simulated rules rules' input position step failures (.whole c')) :
    Simulated rules rules' input position step failures (.whole c) := by
  refine simulated_whole (.means hm hd) fun g' ρ' hg hρ => ?_
  -- what the other definition means is alike
  have go : ∀ {c₁ c₁' : Closure}, c₁.Means rules' c₁' → Closure.Alike rules rules' c' c₁' →
      AnswersLike rules' input position step failures (.whole c₁) := by
    intro c₁ c₁' hm' hc
    obtain ⟨step', hd', hs⟩ := ih c₁' hc
    exact ⟨step', .means hm' hd', hs⟩
  cases hm with
  | @var name d ρ c hl =>
    cases hg
    obtain ⟨hl', -⟩ | ⟨c₁, c₁', hl₁, hl₁', hc⟩ := hρ.lookup name
    · rw [hl] at hl'
      cases hl'
    · obtain rfl := Option.some.inj (hl.symm.trans hl₁)
      exact go (.var hl₁') hc
  | bind =>
    cases hg with
    | bind hg hb => exact go .bind (.same hb (.cons (.same hg hρ) hρ))
  | @rule name definition d ρ hl =>
    cases hg
    obtain ⟨hl', -⟩ | ⟨g, g', hl₁, hl₁', hg⟩ := hr.lookup name
    · rw [hl] at hl'
      cases hl'
    · obtain rfl := Option.some.inj (hl.symm.trans hl₁)
      exact go (.rule hl₁') (.same hg hρ)
  | recursive =>
    cases hg with
    | recursive hg => exact go .recursive (.same hg (.cons (.same (.recursive hg) hρ) hρ))
  | deferred hf =>
    cases hg with
    | deferred hg =>
      refine go (.deferred ((hr.fault_eq hg).symm.trans hf)) ?_
      rw [hr.length_eq]
      exact .same hg hρ

theorem simulated_of_dangles (hr : rules.Alike rules') {c : Closure} {error : GrammarError}
    (hd : c.Dangles rules error) :
    Simulated rules rules' input position (.error error) [] (.whole c) := by
  refine simulated_whole (.dangles hd) fun g' ρ' hg hρ => ⟨_, .dangles ?_, .refl _⟩
  cases hd with
  | @var name d ρ hl =>
    cases hg
    obtain ⟨-, hl'⟩ | ⟨c₁, c₁', hl₁, -, -⟩ := hρ.lookup name
    · exact .var hl'
    · rw [hl] at hl₁
      cases hl₁
  | @rule name d ρ hl =>
    cases hg
    refine .rule (hl.imp_right fun hl => ?_)
    obtain ⟨-, hl'⟩ | ⟨g, g', hl₁, -, -⟩ := hr.lookup name
    · exact hl'
    · rw [hl] at hl₁
      cases hl₁
  | deferred hf =>
    cases hg with
    | deferred hg => exact .deferred ((hr.fault_eq hg).symm.trans hf)

theorem Step.Similar.eq_of_success {v : Value} {next : Nat}
    (h : Step.Similar (.ok (.success v next)) step) : step = .ok (.success v next) := by
  cases h with
  | success _ _ => rfl
  | fails ho _ => cases ho

theorem Step.Similar.exists_of_fails {o : Outcome Value} (ho : o.matched = false)
    (h : Step.Similar (.ok o) step) : ∃ o', step = .ok o' ∧ o'.matched = false := by
  cases h with
  | success v next => cases ho
  | fails _ ho' => exact ⟨_, rfl, ho'⟩

/-- Shapes turn similar outcomes into similar ones; a refused match is a failure for a tag as for a
guard. -/
theorem Reshapes.alike {g g' body : Grammar} {o o' : Outcome Value} {step : Step}
    (h : Reshapes position g body o o') (hg : g.Alike g') (hs : Step.Similar (.ok o) step) :
    ∃ body' o₁ o₁', step = .ok o₁ ∧ g'.body? = some body' ∧ Reshapes position g' body' o₁ o₁' ∧
      Step.Similar (.ok o') (.ok o₁') := by
  cases h with
  | optional_match =>
    obtain rfl := hs.eq_of_success
    cases hg with
    | optional _ => exact ⟨_, _, _, rfl, rfl, .optional_match, .refl _⟩
  | optional_none ho =>
    obtain ⟨o₁, rfl, ho₁⟩ := hs.exists_of_fails ho
    cases hg with
    | optional _ => exact ⟨_, _, _, rfl, rfl, .optional_none ho₁, .refl _⟩
  | transform_match =>
    obtain rfl := hs.eq_of_success
    cases hg with
    | transform _ => exact ⟨_, _, _, rfl, rfl, .transform_match, .refl _⟩
  | transform_fails ho =>
    obtain ⟨o₁, rfl, ho₁⟩ := hs.exists_of_fails ho
    cases hg with
    | transform _ => exact ⟨_, _, _, rfl, rfl, .transform_fails ho₁, .fails rfl rfl⟩
  | tryTransform_match hv =>
    obtain rfl := hs.eq_of_success
    cases hg with
    | tryTransform _ => exact ⟨_, _, _, rfl, rfl, .tryTransform_match hv, .refl _⟩
  | tryTransform_none hv =>
    obtain rfl := hs.eq_of_success
    cases hg with
    | tryTransform _ => exact ⟨_, _, _, rfl, rfl, .tryTransform_none hv, .refl _⟩
  | tryTransform_fails ho =>
    obtain ⟨o₁, rfl, ho₁⟩ := hs.exists_of_fails ho
    cases hg with
    | tryTransform _ => exact ⟨_, _, _, rfl, rfl, .tryTransform_fails ho₁, .fails rfl rfl⟩
  | tag_accepts ha =>
    obtain rfl := hs.eq_of_success
    cases hg with
    | tag _ => exact ⟨_, _, _, rfl, rfl, .tag_accepts ha, .refl _⟩
    | tag_guarded _ => exact ⟨_, _, _, rfl, rfl, .guarded_accepts ha, .refl _⟩
  | tag_rejects ha =>
    obtain rfl := hs.eq_of_success
    cases hg with
    | tag _ => exact ⟨_, _, _, rfl, rfl, .tag_rejects ha, .refl _⟩
    | tag_guarded _ => exact ⟨_, _, _, rfl, rfl, .guarded_rejects ha, .fails rfl rfl⟩
  | tag_fails ho =>
    obtain ⟨o₁, rfl, ho₁⟩ := hs.exists_of_fails ho
    cases hg with
    | tag _ => exact ⟨_, _, _, rfl, rfl, .tag_fails ho₁, .fails ho ho₁⟩
    | tag_guarded _ => exact ⟨_, _, _, rfl, rfl, .guarded_fails ho₁, .fails ho ho₁⟩
  | guarded_accepts ha =>
    obtain rfl := hs.eq_of_success
    cases hg with
    | guarded _ => exact ⟨_, _, _, rfl, rfl, .guarded_accepts ha, .refl _⟩
    | guarded_tag _ => exact ⟨_, _, _, rfl, rfl, .tag_accepts ha, .refl _⟩
  | guarded_rejects ha =>
    obtain rfl := hs.eq_of_success
    cases hg with
    | guarded _ => exact ⟨_, _, _, rfl, rfl, .guarded_rejects ha, .refl _⟩
    | guarded_tag _ => exact ⟨_, _, _, rfl, rfl, .tag_rejects ha, .fails rfl rfl⟩
  | guarded_fails ho =>
    obtain ⟨o₁, rfl, ho₁⟩ := hs.exists_of_fails ho
    cases hg with
    | guarded _ => exact ⟨_, _, _, rfl, rfl, .guarded_fails ho₁, .fails ho ho₁⟩
    | guarded_tag _ => exact ⟨_, _, _, rfl, rfl, .tag_fails ho₁, .fails ho ho₁⟩

/-- The bodies of alike definitions are alike. -/
theorem Grammar.Alike.body? {g g' body : Grammar} (hg : g.Alike g') (hb : g.body? = some body) :
    ∃ body', g'.body? = some body' ∧ body.Alike body' := by
  cases hg with
  | optional h | transform h | tryTransform h | tag h | guarded h | tag_guarded h | guarded_tag h
  | labelled h =>
    cases hb
    exact ⟨_, rfl, h⟩
  | _ => cases hb

theorem simulated_of_reshapes {c : Closure} {body : Grammar} {o o' : Outcome Value}
    (hr : Reshapes position c.grammar body o o')
    (hd : Derives rules input (.whole (c.inner body)) position (.ok o) failures)
    (ih : Simulated rules rules' input position (.ok o) failures (.whole (c.inner body))) :
    Simulated rules rules' input position (.ok o') failures (.whole c) := by
  refine simulated_whole (.reshapes hr hd) fun g' ρ' hg hρ => ?_
  obtain ⟨body', hb', hbody⟩ := hg.body? hr.body?_eq
  obtain ⟨step, hd', hs⟩ := ih ⟨body', c.depth, ρ'⟩ (.same hbody hρ)
  obtain ⟨body₁, o₁, o₁', rfl, hb₁, hr', hs'⟩ := hr.alike hg hs
  obtain rfl := Option.some.inj (hb'.symm.trans hb₁)
  exact ⟨_, .reshapes hr' hd', hs'⟩

/-- The same label is recorded where both bodies fail. -/
theorem simulated_of_labelled {c : Closure} {label : String} {body : Grammar} {o : Outcome Value}
    (hg : c.grammar = .labelled label body)
    (hd : Derives rules input (.whole (c.inner body)) position (.ok o) failures)
    (ih : Simulated rules rules' input position (.ok o) failures (.whole (c.inner body))) :
    Simulated rules rules' input position (.ok o)
      (failures ++ if o.matched then [] else [⟨position, label⟩]) (.whole c) := by
  refine simulated_whole ((derives_labelled_iff hg).2 ⟨_, hd, rfl⟩) fun g' ρ' hg' hρ => ?_
  rw [hg] at hg'
  cases hg' with
  | labelled hb =>
    obtain ⟨step, hd', hs⟩ := ih ⟨_, c.depth, ρ'⟩ (.same hb hρ)
    cases hs with
    | success v next => exact ⟨_, (derives_labelled_iff rfl).2 ⟨_, hd', rfl⟩, .refl _⟩
    | @fails _ o' ho ho' =>
      refine ⟨.ok o', ?_, .fails ho ho'⟩
      have heq : o.matched = o'.matched := ho.trans ho'.symm
      rw [heq]
      exact (derives_labelled_iff rfl).2 ⟨_, hd', rfl⟩

theorem forall₂_alike {c : Closure} {gs gs' : List Grammar} {ρ' : List (String × Closure)}
    (hl : gs.length = gs'.length)
    (hg : ∀ (i : Nat) g g', gs[i]? = some g → gs'[i]? = some g' → g.Alike g')
    (hρ : ScopeAlike rules rules' c.scope ρ') :
    List.Forall₂ (Closure.Alike rules rules') (gs.map c.inner)
      (gs'.map (Closure.inner ⟨.sequence [], c.depth, ρ'⟩)) := by
  rw [List.forall₂_map_left_iff, List.forall₂_map_right_iff, List.forall₂_iff_get]
  exact ⟨hl, fun i h h' => .same (hg i _ _ (by simp) (by simp)) hρ⟩

/-- What is derived for one task is derived for those that are alike, but for what failures report.
-/
theorem Derives.simulated (hr : rules.Alike rules') {task : Task}
    (h : Derives rules input task position step failures) :
    Simulated rules rules' input position step failures task := by
  induction h with
  | recognizes h => exact simulated_of_recognizes h
  | means hm hd ih => exact simulated_of_means hr hm hd ih
  | dangles hd => exact simulated_of_dangles hr hd
  | reshapes hr hd ih => exact simulated_of_reshapes hr hd ih
  | labelled_match hg hd ho ih => simpa [ho] using simulated_of_labelled hg hd ih
  | labelled_fails hg hd ho ih => simpa [ho] using simulated_of_labelled hg hd ih
  | body_error hb hd ih =>
    refine simulated_whole (.body_error hb hd) fun g' ρ' hg hρ => ?_
    obtain ⟨body', hb', hbody⟩ := hg.body? hb
    obtain ⟨step, hd', hs⟩ := ih ⟨body', _, ρ'⟩ (.same hbody hρ)
    cases hs with
    | error error => exact ⟨_, .body_error hb' hd', .refl _⟩
  | sequence hg hd ih =>
    refine simulated_whole (.sequence hg hd) fun g' ρ' hg' hρ => ?_
    rw [hg] at hg'
    cases hg' with
    | sequence hl hgs =>
      obtain ⟨step', hd', hs⟩ := ih _ (forall₂_alike hl hgs hρ)
      exact ⟨step', .sequence rfl hd', hs⟩
  | choice hg hd ih =>
    refine simulated_whole (.choice hg hd) fun g' ρ' hg' hρ => ?_
    rw [hg] at hg'
    cases hg' with
    | choice hl hgs =>
      obtain ⟨step', hd', hs⟩ := ih _ (forall₂_alike hl hgs hρ)
      exact ⟨step', .choice rfl hd', hs⟩
  | many hg hd ih =>
    refine simulated_whole (.many hg hd) fun g' ρ' hg' hρ => ?_
    rw [hg] at hg'
    cases hg' with
    | many hb =>
      obtain ⟨step', hd', hs⟩ := ih ⟨_, _, ρ'⟩ (.same hb hρ)
      exact ⟨step', .many rfl hd', hs⟩
  | parts_nil =>
    intro cs' hcs
    cases hcs
    exact ⟨_, .parts_nil, .refl _⟩
  | parts_cons _ _ ih ih' =>
    intro cs' hcs
    obtain ⟨c', cs', hc, hcs', rfl⟩ := List.forall₂_cons_left_iff.1 hcs
    obtain ⟨step, hd, hs⟩ := ih c' hc
    obtain ⟨step', hd', hs'⟩ := ih' cs' hcs'
    -- a match is the same on both sides, so that the other parts start at the same position
    obtain rfl := hs.eq_of_success
    exact ⟨_, .parts_cons hd hd', hs'.cons _⟩
  | parts_fails _ ho ih =>
    intro cs' hcs
    obtain ⟨c', cs', hc, hcs, rfl⟩ := List.forall₂_cons_left_iff.1 hcs
    obtain ⟨step, hd, hs⟩ := ih c' hc
    -- what does not match may report different positions, and so may the sequence
    obtain ⟨o', rfl, ho'⟩ := hs.exists_of_fails ho
    exact ⟨_, .parts_fails hd ho', .fails rfl rfl⟩
  | parts_error _ ih =>
    intro cs' hcs
    obtain ⟨c', cs', hc, hcs, rfl⟩ := List.forall₂_cons_left_iff.1 hcs
    obtain ⟨step, hd, hs⟩ := ih c' hc
    cases hs with
    | error error => exact ⟨_, .parts_error hd, .refl _⟩
  | alternatives_nil =>
    intro cs' hcs
    cases hcs
    exact ⟨_, .alternatives_nil, .refl _⟩
  | alternatives_match _ ho ih =>
    intro cs' hcs
    obtain ⟨c', cs', hc, hcs, rfl⟩ := List.forall₂_cons_left_iff.1 hcs
    obtain ⟨step, hd, hs⟩ := ih c' hc
    cases hs with
    | success v next => exact ⟨_, .alternatives_match hd ho, .refl _⟩
    | fails ho' => rw [ho] at ho'; cases ho'
  | alternatives_next _ ho _ ih ih' =>
    intro cs' hcs
    obtain ⟨c', cs', hc, hcs', rfl⟩ := List.forall₂_cons_left_iff.1 hcs
    obtain ⟨step, hd, hs⟩ := ih c' hc
    obtain ⟨step', hd', hs'⟩ := ih' cs' hcs'
    obtain ⟨o', rfl, ho'⟩ := hs.exists_of_fails ho
    exact ⟨_, .alternatives_next hd ho' hd', hs'⟩
  | alternatives_error _ ih =>
    intro cs' hcs
    obtain ⟨c', cs', hc, hcs, rfl⟩ := List.forall₂_cons_left_iff.1 hcs
    obtain ⟨step, hd, hs⟩ := ih c' hc
    cases hs with
    | error error => exact ⟨_, .alternatives_error hd, .refl _⟩
  | iterations_stop _ ho ih =>
    intro c' hc
    obtain ⟨step, hd, hs⟩ := ih c' hc
    obtain ⟨o', rfl, ho'⟩ := hs.exists_of_fails ho
    exact ⟨_, .iterations_stop hd ho', .refl _⟩
  | iterations_next _ hn _ ih ih' =>
    intro c' hc
    obtain ⟨step, hd, hs⟩ := ih c' hc
    obtain ⟨step', hd', hs'⟩ := ih' c' hc
    obtain rfl := hs.eq_of_success
    exact ⟨_, .iterations_next hd hn hd', hs'.cons _⟩
  | iterations_stall _ ih =>
    intro c' hc
    obtain ⟨step, hd, hs⟩ := ih c' hc
    obtain rfl := hs.eq_of_success
    exact ⟨_, .iterations_stall hd, .refl _⟩
  | iterations_error _ ih =>
    intro c' hc
    obtain ⟨step, hd, hs⟩ := ih c' hc
    cases hs with
    | error error => exact ⟨_, .iterations_error hd, .refl _⟩

/-! ## Contexts -/

/-- Wherever one grammar answers, the other answers similarly and records the same. -/
structure Grammar.Similar (rules rules' : Rules) (g g' : Grammar) : Prop where
  forth : (g.closed rules).Simulates rules rules' (g'.closed rules')
  back : (g'.closed rules').Simulates rules' rules (g.closed rules)

theorem Closure.Alike.simulates_of {c c' : Closure} (hr : rules.Alike rules')
    (h : Closure.Alike rules rules' c c') : c.Simulates rules rules' c' :=
  fun _ _ _ _ hd => hd.simulated hr c' h

/-- Definitions that are alike are similar. -/
theorem Grammar.Alike.similar {g g' : Grammar} (hr : rules.Alike rules') (h : g.Alike g') :
    g.Similar rules rules' g' := by
  have hl : rules.length = rules'.length := hr.length_eq
  constructor
  · refine Closure.Alike.simulates_of hr ?_
    rw [Grammar.closed, Grammar.closed, hl]
    exact .same h .nil
  · refine Closure.Alike.simulates_of hr.symm ?_
    rw [Grammar.closed, Grammar.closed, hl]
    exact .same h.symm .nil

/-- What stands around a definition is simulated where the definition is. -/
theorem Closure.Simulates.bind {g g' context context' : Grammar} (hr : rules.Alike rules')
    (h : (g.closed rules).Simulates rules rules' (g'.closed rules')) (name : String)
    (hc : context.Alike context') :
    ((Grammar.bind name g context).closed rules).Simulates rules rules'
      ((Grammar.bind name g' context').closed rules') := by
  intro input position step failures hd
  have hl : rules.length = rules'.length := hr.length_eq
  have hc : Closure.Alike rules rules' ⟨context, rules.length, [(name, g.closed rules)]⟩
      ⟨context', rules'.length, [(name, g'.closed rules')]⟩ := by
    rw [← hl]
    exact .same hc (.cons (.simulates h) .nil)
  obtain ⟨step', hd', hs⟩ := ((derives_means_iff .bind).1 hd).simulated hr _ hc
  exact ⟨step', .means .bind hd', hs⟩

/-- What stands around grammars that are similar is similar. -/
theorem Grammar.Similar.bind {g g' context context' : Grammar} (h : g.Similar rules rules' g')
    (hr : rules.Alike rules') (name : String) (hc : context.Alike context') :
    (Grammar.bind name g context).Similar rules rules' (.bind name g' context') :=
  ⟨h.forth.bind hr name hc, h.back.bind hr.symm name hc.symm⟩

end

/-! ## Sessions -/

namespace Session

/-- Wherever one session answers, the other answers similarly and records the same. -/
def Simulates (s s' : Session) : Prop :=
  ∀ (input : List Char) (position : Nat) (step : Step) (t : Session),
    s.invoke input position = some (step, t) →
    ∃ step' t' failures, s'.invoke input position = some (step', t') ∧ step.Similar step' ∧
      t.store.tracker = s.store.tracker.recordAll failures ∧
      t'.store.tracker = s'.store.tracker.recordAll failures

/-- The sessions differ in what failures report only, and their readers do not differ at all. -/
structure Alike (s s' : Session) : Prop where
  forth : s.Simulates s'
  back : s'.Simulates s
  parse : ∀ (input : List Char) (answer : Except ParseError Value),
    (∃ t, s.use (fun reader => reader.parse input) = some (answer, t)) ↔
      ∃ t', s'.use (fun reader => reader.parse input) = some (answer, t')
  parsePrefix : ∀ (input : List Char) (answer : Except ParseError (Value × Nat)),
    (∃ t, s.use (fun reader => reader.parsePrefix input) = some (answer, t)) ↔
      ∃ t', s'.use (fun reader => reader.parsePrefix input) = some (answer, t')
  parseComplete : ∀ (input : List Char) (answer : Except ParseError Value),
    (∃ t, s.use (fun reader => reader.parser.parseComplete input) = some (answer, t)) ↔
      ∃ t', s'.use (fun reader => reader.parser.parseComplete input) = some (answer, t')

theorem reader?_of_use {α : Type} {s s' : Session} {act : Reader → Store → Option (α × Store)}
    {a : α} (h : s.use act = some (a, s')) : s'.reader? = s.reader? := by
  unfold Session.use at h
  split at h
  · cases h
  · obtain ⟨_, -, h⟩ := Option.map_eq_some_iff.1 h
    cases h
    rfl

theorem Reaches.reader?_eq {s s' : Session} (h : Reaches s s') : s'.reader? = s.reader? := by
  induction h with
  | refl => rfl
  | step _ hu ih =>
    rw [← ih]
    cases hu with
    | invoke h | parseAt h | parsePrefix h | parse h | parseComplete h | check h =>
      exact reader?_of_use h
    | invokeHandle h =>
      unfold Session.invokeHandle at h
      split at h
      · cases h
      · obtain ⟨_, -, h⟩ := Option.map_eq_some_iff.1 h
        cases h
        rfl
    | record | reset => rfl

/-- What a reader in use answers. -/
theorem exists_use_iff {α : Type} {s : Session} {reader : Reader}
    {act : Reader → Store → Option (α × Store)} {a : α} (hr : s.reader? = some reader) :
    (∃ t, s.use act = some (a, t)) ↔ ∃ store, act reader s.store = some (a, store) := by
  simp only [Session.use, hr, Option.map_eq_some_iff, Prod.exists, Prod.mk.injEq]
  constructor
  · rintro ⟨t, a, store, h, rfl, -⟩
    exact ⟨store, h⟩
  · rintro ⟨store, h⟩
    exact ⟨_, a, store, h, rfl, rfl⟩

section
variable {rules rules' : Rules} {c c' : Closure} {s s' : Session}

theorem Sound.simulates (hs : s.Sound rules c) (hs' : s'.Sound rules' c')
    (h : c.Simulates rules rules' c') : s.Simulates s' := by
  intro input position step t ht
  obtain ⟨failures, hd, htr⟩ := hs.exists_derives ht
  obtain ⟨step', hd', hsim⟩ := h _ _ _ _ hd
  obtain ⟨t', ht', htr'⟩ := hs'.exists_invoke hd'
  exact ⟨step', t', failures, ht', hsim, htr, htr'⟩

/-- Where all that is derived for one is derived for the other up to similarity, readers make the
same of it. -/
theorem exists_derives_congr {β : Type} {input : List Char} {answer : β}
    (forth : c.Simulates rules rules' c') (back : c'.Simulates rules' rules c)
    (make : Step → List Failure → β)
    (hmake : ∀ step step' failures, step.Similar step' → make step failures = make step' failures) :
    (∃ step failures, Derives rules input (.whole c) 0 step failures ∧
        answer = make step failures) ↔
      ∃ step failures, Derives rules' input (.whole c') 0 step failures ∧
        answer = make step failures := by
  constructor
  · rintro ⟨step, failures, hd, rfl⟩
    obtain ⟨step', hd', hs⟩ := forth _ _ _ _ hd
    exact ⟨step', failures, hd', hmake _ _ _ hs⟩
  · rintro ⟨step, failures, hd, rfl⟩
    obtain ⟨step', hd', hs⟩ := back _ _ _ _ hd
    exact ⟨step', failures, hd', hmake _ _ _ hs⟩

/-- Sessions of definitions that simulate each other. -/
theorem Sound.alike (hs : s.Sound rules c) (hs' : s'.Sound rules' c')
    (forth : c.Simulates rules rules' c') (back : c'.Simulates rules' rules c) {p p' : Parser}
    {options : ReaderOptions} {tracked : Bool} (hr : s.reader? = some ⟨p, options, tracked⟩)
    (hr' : s'.reader? = some ⟨p', options, tracked⟩) : s.Alike s' := by
  have forth' := hs.simulates hs' forth
  have back' := hs'.simulates hs back
  obtain ⟨reader, L, h, hb, hsound, -⟩ := hs
  obtain ⟨reader', L', h', hb', hsound', -⟩ := hs'
  obtain rfl := Option.some.inj (hr.symm.trans h)
  obtain rfl := Option.some.inj (hr'.symm.trans h')
  refine ⟨forth', back', fun input answer => ?_, fun input answer => ?_, fun input answer => ?_⟩
  · rw [exists_use_iff hr, exists_use_iff hr', Reader.parse_iff hb hsound,
      Reader.parse_iff hb' hsound']
    exact exists_derives_congr forth back _ fun _ _ _ h => congrArg _ (h.prefixAnswer_eq _)
  · rw [exists_use_iff hr, exists_use_iff hr', Reader.parsePrefix_iff hb hsound,
      Reader.parsePrefix_iff hb' hsound']
    exact exists_derives_congr forth back _ fun _ _ _ h => h.prefixAnswer_eq _
  · rw [exists_use_iff hr, exists_use_iff hr']
    refine Iff.trans (@Reader.parse_iff { parser := p } _ _ _ _ _ _ hb hsound _) ?_
    refine Iff.trans ?_ (@Reader.parse_iff { parser := p' } _ _ _ _ _ _ hb' hsound' _).symm
    exact exists_derives_congr forth back _ fun _ _ _ h => congrArg _ (h.prefixAnswer_eq _)

end

theorem exists_reader_of_start {rules : Rules} {grammar : Grammar} {options : ReaderOptions}
    {tracked : Bool} {s : Session} {store : Store}
    (h : start rules grammar options tracked = (.ok s, store)) :
    ∃ p, s.reader? = some ⟨p, options, tracked⟩ := by
  unfold start at h
  split at h <;> cases h
  exact ⟨_, rfl⟩

/-- Sessions of similar grammars are alike, however each has been used. -/
theorem alike_of_similar {rules rules' : Rules} {g g' : Grammar} {options : ReaderOptions}
    {tracked : Bool} {s₀ s₀' s s' : Session} {store store' : Store}
    (h : g.Similar rules rules' g') (hstart : start rules g options tracked = (.ok s₀, store))
    (hstart' : start rules' g' options tracked = (.ok s₀', store')) (hreach : Reaches s₀ s)
    (hreach' : Reaches s₀' s') : s.Alike s' := by
  obtain ⟨p, hr⟩ := exists_reader_of_start hstart
  obtain ⟨p', hr'⟩ := exists_reader_of_start hstart'
  exact ((sound_start hstart).reaches hreach).alike ((sound_start hstart').reaches hreach')
    h.forth h.back (by rw [hreach.reader?_eq, hr]) (by rw [hreach'.reader?_eq, hr'])

/-- A session starts where one with an alike grammar does. -/
theorem exists_start_of_alike {rules rules' : Rules} {g g' : Grammar} {options : ReaderOptions}
    {tracked : Bool} {s₀ : Session} {store : Store} (hr : rules.Alike rules') (hg : g.Alike g')
    (hstart : start rules g options tracked = (.ok s₀, store)) :
    ∃ s₀' store', start rules' g' options tracked = (.ok s₀', store') := by
  have hfault := exists_start_iff.1 ⟨s₀, store, hstart⟩
  rw [hr.fault_eq hg] at hfault
  exact exists_start_iff.2 hfault

/-- What a failing parser reports influences nothing but what failing parsers report. Around two
grammars that answer similarly and record the same, everything answers similarly and records the
same, and readers answer the same. So tags may be replaced by guards anywhere, and guards by tags.
-/
theorem failure_reports_do_not_matter (rules : Rules) :
    (∀ g g' : Grammar, g.Similar rules rules g' → ∀ (hole : String) (context : Grammar),
      (Grammar.bind hole g context).Similar rules rules (.bind hole g' context) ∧
        ∀ (options : ReaderOptions) (tracked : Bool) (s₀ s₀' s s' : Session) (store store' : Store),
          start rules (.bind hole g context) options tracked = (.ok s₀, store) →
          start rules (.bind hole g' context) options tracked = (.ok s₀', store') →
          Reaches s₀ s → Reaches s₀' s' → s.Alike s') ∧
    ∀ (rules' : Rules) (g g' : Grammar), rules.Alike rules' → g.Alike g' →
      ∀ (options : ReaderOptions) (tracked : Bool) (s₀ : Session) (store : Store),
        start rules g options tracked = (.ok s₀, store) →
        ∃ s₀' store', start rules' g' options tracked = (.ok s₀', store') ∧
          ∀ s s', Reaches s₀ s → Reaches s₀' s' → s.Alike s' := by
  constructor
  · intro g g' h hole context
    have hbind := h.bind (.refl rules) hole (.refl context)
    exact ⟨hbind, fun _ _ _ _ _ _ _ _ hstart hstart' hreach hreach' =>
      alike_of_similar hbind hstart hstart' hreach hreach'⟩
  · intro rules' g g' hr hg options tracked s₀ store hstart
    obtain ⟨s₀', store', hstart'⟩ := exists_start_of_alike hr hg hstart
    exact ⟨s₀', store', hstart', fun _ _ hreach hreach' =>
      alike_of_similar (hg.similar hr) hstart hstart' hreach hreach'⟩

/-- A letter that is refused, as a tag and as a guard do it, in front of another letter. -/
theorem failure_reports_of_refused :
    let tagged : Grammar := .tag (fun _ => false) (.literal "a")
    let guarded : Grammar := .guarded (fun _ => false) (.literal "a")
    let context : Grammar := .choice [.sequence [.var "letter", .literal "b"], .literal "c"]
    tagged.Similar [] [] guarded ∧ tagged.Alike guarded ∧
      (∃ s s', (start [] (.bind "letter" tagged context) {} true).1 = .ok s ∧
        (start [] (.bind "letter" guarded context) {} true).1 = .ok s' ∧ s.Alike s') ∧
      ∃ s s', (start [] tagged {} true).1 = .ok s ∧ (start [] guarded {} true).1 = .ok s' ∧
        s.Alike s' := by
  intro tagged guarded context
  have halike : tagged.Alike guarded := .tag_guarded (.literal "a")
  have hsimilar : tagged.Similar [] [] guarded := halike.similar (.refl [])
  have hbind := ((failure_reports_do_not_matter []).1 tagged guarded hsimilar "letter" context).2
    {} true _ _ _ _ _ _ rfl rfl .refl .refl
  obtain ⟨s', store', hstart', h⟩ :=
    (failure_reports_do_not_matter []).2 [] tagged guarded (.refl []) halike {} true _ _ rfl
  exact ⟨hsimilar, halike, ⟨_, _, rfl, rfl, hbind⟩, _, s', rfl, by rw [hstart'], h _ _ .refl .refl⟩

end Session

end Descent
