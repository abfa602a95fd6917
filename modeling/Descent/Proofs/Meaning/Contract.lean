import Descent.Proofs.Meaning.Session

/-!
# The contract of parsers

A grammar without custom parts keeps to the input (`Session.invoke_contract`): wherever it is
invoked on a boundary, all that it reports and records are boundaries of the input from there on, a
match has a value, and a failure has one only where a tag has refused it (`Rejects`).
-/

namespace Descent

/-! ## Positions ahead -/

/-- `next` is a boundary of the input, and not before the position. -/
structure Text.Onward (input : List Char) (position next : Nat) : Prop where
  le : position ≤ next
  le_length : next ≤ byteLength input
  boundary : isBoundary input next = true

namespace Text

variable {input text rest : List Char} {position next : Nat}

theorem Onward.refl (h : isBoundary input position = true) : Onward input position position := by
  obtain ⟨rest, hat⟩ := isBoundary_iff.1 h
  exact ⟨Nat.le_refl _, hat.le_length, h⟩

theorem Onward.trans {last : Nat} (h : Onward input position next) (h' : Onward input next last) :
    Onward input position last :=
  ⟨Nat.le_trans h.le h'.le, h'.le_length, h'.boundary⟩

theorem At.onward (h : At input position (text ++ rest)) :
    Onward input position (position + byteLength text) :=
  ⟨Nat.le_add_right _ _, h.append.le_length, h.append.isBoundary⟩

end Text

/-- The positions that a step reports are ahead. -/
def Step.Onward (input : List Char) (position : Nat) : Step → Prop
  | .ok o => Text.Onward input position o.next
  | .error (.zeroWidthRepetition stalled) => Text.Onward input position stalled
  | .error _ => True

namespace Step

variable {input : List Char} {position next : Nat}

theorem Onward.trans {step : Step} (h : Text.Onward input position next)
    (h' : step.Onward input next) : step.Onward input position := by
  match step with
  | .ok o => exact Text.Onward.trans h h'
  | .error (.zeroWidthRepetition _) => exact Text.Onward.trans h h'
  | .error (.invalidPattern _) | .error .undefinedRule | .error .detachedRule => trivial

/-- A value in front of those of a match does not change what is reported. -/
theorem Onward.cons {step : Step} (h : step.Onward input position) (v : Value) :
    (step.cons v).Onward input position := by
  unfold Step.cons
  split <;> exact h

end Step

/-! ## Grammars without functions of their own -/

namespace Grammar

mutual

/-- No part of the definition is a function of input and position. -/
def standard : Grammar → Bool
  | custom _ => false
  | literal _ | charClass _ _ | pattern _ _ | rule _ | var _ => true
  | sequence parts => standardAll parts
  | choice alternatives => standardAll alternatives
  | bind _ definition body => definition.standard && body.standard
  | many body => body.standard
  | optional body => body.standard
  | deferred body => body.standard
  | recursive _ _ _ body => body.standard
  | transform _ body => body.standard
  | tryTransform _ body => body.standard
  | tag _ body => body.standard
  | guarded _ body => body.standard
  | labelled _ body => body.standard

def standardAll : List Grammar → Bool
  | [] => true
  | g :: gs => g.standard && standardAll gs

end

theorem standard_of_mem {gs : List Grammar} (h : standardAll gs = true) :
    ∀ g ∈ gs, g.standard = true := by
  induction gs with
  | nil => exact fun _ hg => nomatch hg
  | cons g gs ih =>
    rw [standardAll, Bool.and_eq_true] at h
    exact List.forall_mem_cons.2 ⟨h.1, ih h.2⟩

theorem standard_of_body? {g body : Grammar} (hb : g.body? = some body)
    (h : g.standard = true) : body.standard = true := by
  cases g <;> cases hb <;> exact h

end Grammar

namespace Rules

/-- No definition of the rules is a function of input and position. -/
def Standard (rules : Rules) : Prop := ∀ a ∈ rules, a.2.standard = true

end Rules

/-- Neither the definition nor any that its names mean is a function of input and position. -/
inductive Closure.Standard : Closure → Prop
  | mk {g : Grammar} {d : Nat} {ρ : List (String × Closure)} : g.standard = true →
      (∀ a ∈ ρ, Standard a.2) → Standard ⟨g, d, ρ⟩

theorem mem_of_lookup {α : Type} {name : String} {a : α} {l : List (String × α)}
    (h : l.lookup name = some a) : (name, a) ∈ l := by
  obtain ⟨l₁, l₂, rfl, -⟩ := List.lookup_eq_some_iff.1 h
  simp

section
variable {rules : Rules} {c c' : Closure}

theorem Closure.Standard.grammar (h : c.Standard) : c.grammar.standard = true := by
  cases h; assumption

theorem Closure.Standard.inner (h : c.Standard) {g : Grammar} (hg : g.standard = true) :
    (c.inner g).Standard := by
  cases h with
  | mk _ hρ => exact .mk hg hρ

theorem Closure.Standard.means (hrules : rules.Standard) (h : c.Standard)
    (hm : c.Means rules c') : c'.Standard := by
  cases h with
  | mk hg hρ =>
    cases hm with
    | var hl => exact hρ _ (mem_of_lookup hl)
    | bind =>
      simp only [Grammar.standard, Bool.and_eq_true] at hg
      exact .mk hg.2 (List.forall_mem_cons.2 ⟨.mk hg.1 hρ, hρ⟩)
    | rule hl => exact .mk (hrules _ (mem_of_lookup hl)) hρ
    | recursive => exact .mk hg (List.forall_mem_cons.2 ⟨.mk hg hρ, hρ⟩)
    | deferred _ => exact .mk hg hρ

end

/-! ## Errors of building -/

namespace Grammar

variable {named : String → Option GrammarError}

mutual

theorem exists_of_faultWith (hn : ∀ name error, named name = some error →
    ∃ expression, error = .invalidPattern expression) :
    ∀ (g : Grammar) (error : GrammarError), g.faultWith named = some error →
      ∃ expression, error = .invalidPattern expression
  | .pattern expression ignoreCase, error, h => by
    rw [faultWith] at h
    split at h <;> cases h
    exact ⟨expression, rfl⟩
  | .sequence parts, error, h => exists_of_faultAll hn parts error h
  | .choice alternatives, error, h => exists_of_faultAll hn alternatives error h
  | .rule name, error, h => hn name error h
  | .bind _ definition body, error, h => by
    rw [faultWith, Option.or_eq_some_iff] at h
    obtain h | ⟨-, h⟩ := h
    · exact exists_of_faultWith hn definition error h
    · exact exists_of_faultWith hn body error h
  | .many body, error, h => exists_of_faultWith hn body error h
  | .optional body, error, h => exists_of_faultWith hn body error h
  | .recursive _ _ _ body, error, h => exists_of_faultWith hn body error h
  | .transform _ body, error, h => exists_of_faultWith hn body error h
  | .tryTransform _ body, error, h => exists_of_faultWith hn body error h
  | .tag _ body, error, h => exists_of_faultWith hn body error h
  | .guarded _ body, error, h => exists_of_faultWith hn body error h
  | .labelled _ body, error, h => exists_of_faultWith hn body error h

theorem exists_of_faultAll (hn : ∀ name error, named name = some error →
    ∃ expression, error = .invalidPattern expression) :
    ∀ (gs : List Grammar) (error : GrammarError), faultAll named gs = some error →
      ∃ expression, error = .invalidPattern expression
  | g :: gs, error, h => by
    rw [faultAll, Option.or_eq_some_iff] at h
    obtain h | ⟨-, h⟩ := h
    · exact exists_of_faultWith hn g error h
    · exact exists_of_faultAll hn gs error h

end

/-- Building fails for a pattern that does not compile, and for nothing else. -/
theorem exists_of_fault {rules : Rules} {g : Grammar} {error : GrammarError}
    (h : g.fault rules = some error) : ∃ expression, error = .invalidPattern expression := by
  refine exists_of_faultWith (fun name error h => ?_) g error h
  generalize rules.length = depth at h
  induction depth generalizing name error with
  | zero => cases h
  | succ depth ih =>
    rw [faultNamed] at h
    split at h
    · exact exists_of_faultWith ih _ error h
    · cases h

end Grammar

/-! ## What is derived -/

section
variable {rules : Rules} {input : List Char} {position : Nat}

theorem Closure.Dangles.onward {c : Closure} {error : GrammarError} (h : c.Dangles rules error) :
    Step.Onward input position (.error error) := by
  cases h with
  | var _ | rule _ => trivial
  | deferred h =>
    obtain ⟨expression, rfl⟩ := Grammar.exists_of_fault h
    trivial

/-- Where nothing is behind a name, nothing has stalled. -/
theorem Closure.Dangles.ne_zeroWidthRepetition {c : Closure} {error : GrammarError}
    (h : c.Dangles rules error) (position : Nat) : error ≠ .zeroWidthRepetition position := by
  cases h with
  | var _ | rule _ => exact nofun
  | deferred h =>
    obtain ⟨expression, rfl⟩ := Grammar.exists_of_fault h
    exact nofun

theorem Recognizes.onward {g : Grammar} {step : Step} (h : Recognizes input position g step)
    (hg : g.standard = true) (hp : Text.isBoundary input position = true) :
    step.Onward input position := by
  cases h with
  | literal hat => exact hat.onward
  | @charClass _ _ c rest hat _ => exact @Text.At.onward input [c] rest position hat
  | pattern _ hat _ => exact hat.onward
  | literal_fails _ | charClass_fails _ | pattern_fails _ _ => exact .refl hp
  | custom => cases hg

theorem Reshapes.onward {g body : Grammar} {o o' : Outcome Value}
    (h : Reshapes position g body o o') (hp : Text.isBoundary input position = true)
    (ho : Step.Onward input position (.ok o)) : Step.Onward input position (.ok o') := by
  cases h with
  | optional_match | transform_match | transform_fails _ | tryTransform_match _
  | tryTransform_fails _ | tag_accepts _ | tag_rejects _ | tag_fails _ | guarded_accepts _
  | guarded_fails _ => exact ho
  | optional_none _ | tryTransform_none _ | guarded_rejects _ => exact .refl hp

/-- The definitions of a task. -/
def Task.closures : Task → List Closure
  | .whole c => [c]
  | .parts cs => cs
  | .alternatives cs => cs
  | .iterations c => [c]

theorem standard_map_inner {c : Closure} {gs : List Grammar} (hc : c.Standard)
    (hg : Grammar.standardAll gs = true) : ∀ c' ∈ gs.map c.inner, c'.Standard := by
  intro c' hc'
  obtain ⟨g, hg', rfl⟩ := List.mem_map.1 hc'
  exact hc.inner (Grammar.standard_of_mem hg g hg')

/-- What comes second is recorded from where the first stopped. -/
theorem forall_onward_append {next : Nat} {failures failures' : List Failure}
    (h : ∀ f ∈ failures, Text.Onward input position f.position)
    (hn : Text.Onward input position next)
    (h' : ∀ f ∈ failures', Text.Onward input next f.position) :
    ∀ f ∈ failures ++ failures', Text.Onward input position f.position :=
  List.forall_mem_append.2 ⟨h, fun f hf => hn.trans (h' f hf)⟩

/-- All that is reported and recorded lies ahead. -/
theorem Derives.onward (hrules : rules.Standard) {task : Task} {step : Step}
    {failures : List Failure} (h : Derives rules input task position step failures)
    (hc : ∀ c ∈ task.closures, c.Standard) (hp : Text.isBoundary input position = true) :
    step.Onward input position ∧ ∀ f ∈ failures, Text.Onward input position f.position := by
  induction h with
  | recognizes h =>
    exact ⟨h.onward (hc _ List.mem_cons_self).grammar hp, List.forall_mem_nil _⟩
  | means hm _ ih =>
    have hmeant := (hc _ List.mem_cons_self).means hrules hm
    exact ih (List.forall_mem_singleton.2 hmeant) hp
  | dangles hd => exact ⟨hd.onward, List.forall_mem_nil _⟩
  | reshapes hr _ ih =>
    have hcl := hc _ List.mem_cons_self
    have hbody := Grammar.standard_of_body? hr.body?_eq hcl.grammar
    obtain ⟨ho, hf⟩ := ih (List.forall_mem_singleton.2 (hcl.inner hbody)) hp
    exact ⟨hr.onward hp ho, hf⟩
  | labelled_match hg _ _ ih =>
    have hcl := hc _ List.mem_cons_self
    have hbody := Grammar.standard_of_body? (by rw [hg]; rfl) hcl.grammar
    exact ih (List.forall_mem_singleton.2 (hcl.inner hbody)) hp
  | labelled_fails hg _ _ ih =>
    have hcl := hc _ List.mem_cons_self
    have hbody := Grammar.standard_of_body? (by rw [hg]; rfl) hcl.grammar
    obtain ⟨ho, hf⟩ := ih (List.forall_mem_singleton.2 (hcl.inner hbody)) hp
    have hlabel : Text.Onward input _ _ := .refl hp
    exact ⟨ho, forall_onward_append hf hlabel (List.forall_mem_singleton.2 hlabel)⟩
  | body_error hg _ ih =>
    have hcl := hc _ List.mem_cons_self
    have hbody := Grammar.standard_of_body? hg hcl.grammar
    exact ih (List.forall_mem_singleton.2 (hcl.inner hbody)) hp
  | sequence hg _ ih | choice hg _ ih =>
    have hcl := hc _ List.mem_cons_self
    have hgs := hcl.grammar
    rw [hg, Grammar.standard] at hgs
    exact ih (standard_map_inner hcl hgs) hp
  | many hg _ ih =>
    have hcl := hc _ List.mem_cons_self
    have hgs := hcl.grammar
    rw [hg, Grammar.standard] at hgs
    exact ih (List.forall_mem_singleton.2 (hcl.inner hgs)) hp
  | parts_nil => exact ⟨.refl hp, List.forall_mem_nil _⟩
  | parts_cons _ _ ih ih' =>
    obtain ⟨hcl, hcs⟩ := List.forall_mem_cons.1 hc
    obtain ⟨ho, hf⟩ := ih (List.forall_mem_singleton.2 hcl) hp
    -- a match ends at a boundary, from where the other parts go on
    obtain ⟨ho', hf'⟩ := ih' hcs ho.boundary
    exact ⟨(Step.Onward.trans ho ho').cons _, forall_onward_append hf ho hf'⟩
  | parts_fails _ _ ih | parts_error _ ih | alternatives_match _ _ ih | alternatives_error _ ih =>
    exact ih (List.forall_mem_singleton.2 (List.forall_mem_cons.1 hc).1) hp
  | alternatives_nil => exact ⟨.refl hp, List.forall_mem_nil _⟩
  | alternatives_next _ _ _ ih ih' =>
    obtain ⟨hcl, hcs⟩ := List.forall_mem_cons.1 hc
    obtain ⟨-, hf⟩ := ih (List.forall_mem_singleton.2 hcl) hp
    -- where the failed alternative stopped is of no account: the next one starts where it did
    obtain ⟨ho', hf'⟩ := ih' hcs hp
    exact ⟨ho', forall_onward_append hf (.refl hp) hf'⟩
  | iterations_stop _ _ ih => exact ⟨.refl hp, (ih hc hp).2⟩
  | iterations_next _ _ _ ih ih' =>
    obtain ⟨ho, hf⟩ := ih hc hp
    obtain ⟨ho', hf'⟩ := ih' hc ho.boundary
    exact ⟨(Step.Onward.trans ho ho').cons _, forall_onward_append hf ho hf'⟩
  | iterations_stall _ ih => exact ih hc hp
  | iterations_error _ ih => exact ih hc hp

/-! ## Rejections -/

/-- At the position a tag refuses a match with the value, and its rejection is handed up. -/
inductive Rejects (rules : Rules) (input : List Char) (position : Nat) (v : Value) (next : Nat) :
    Closure → Prop
  | tag {c : Closure} {accepts : Value → Bool} {body : Grammar} {failures : List Failure} :
      c.grammar = .tag accepts body →
      Derives rules input (.whole (c.inner body)) position (.ok (.success v next)) failures →
      accepts v = false → Rejects rules input position v next c
  | means {c c' : Closure} : c.Means rules c' → Rejects rules input position v next c' →
      Rejects rules input position v next c
  | through_tag {c : Closure} {accepts : Value → Bool} {body : Grammar} :
      c.grammar = .tag accepts body → Rejects rules input position v next (c.inner body) →
      Rejects rules input position v next c
  | through_guarded {c : Closure} {accepts : Value → Bool} {body : Grammar} :
      c.grammar = .guarded accepts body → Rejects rules input position v next (c.inner body) →
      Rejects rules input position v next c
  | through_labelled {c : Closure} {label : String} {body : Grammar} :
      c.grammar = .labelled label body → Rejects rules input position v next (c.inner body) →
      Rejects rules input position v next c

/-- A rejection of the task is one that a tag has come to; several definitions have none. -/
def HandsUp (rules : Rules) (input : List Char) (position : Nat) (step : Step) : Task → Prop
  | .whole c => c.Standard → ∀ v next, step = .ok (.rejected v next) →
      Rejects rules input position v next c
  | _ => ∀ v next, step ≠ .ok (.rejected v next)

theorem Step.cons_ne_rejected {step : Step} (h : ∀ v next, step ≠ .ok (.rejected v next))
    (v w : Value) (next : Nat) : step.cons v ≠ .ok (.rejected w next) := by
  unfold Step.cons
  split
  · exact nofun
  · exact h w next

theorem Recognizes.not_rejected {g : Grammar} {v : Value} {next : Nat} (hg : g.standard = true)
    (h : Recognizes input position g (.ok (.rejected v next))) : False := by
  generalize hs : (.ok (.rejected v next) : Step) = step at h
  cases h with
  | custom => cases hg
  | _ => cases hs

/-- Only a tag refuses a match and shows its value. -/
theorem Derives.handsUp (hrules : rules.Standard) {task : Task} {step : Step}
    {failures : List Failure} (h : Derives rules input task position step failures) :
    HandsUp rules input position step task := by
  induction h with
  | recognizes h =>
    intro hc v next hs
    subst hs
    exact (h.not_rejected hc.grammar).elim
  | means hm _ ih => exact fun hc v next hs => .means hm (ih (hc.means hrules hm) v next hs)
  | dangles _ | body_error _ _ _ => exact fun _ _ _ hs => nomatch hs
  | @reshapes c body position o o' failures hr hd ih =>
    intro hc v next hs
    have hbody := hc.inner (Grammar.standard_of_body? hr.body?_eq hc.grammar)
    obtain ⟨g, d, ρ⟩ := c
    cases hr with
    | tag_rejects ha => cases hs; exact .tag rfl hd ha
    | tag_fails _ => exact .through_tag rfl (ih hbody v next hs)
    | guarded_fails _ => exact .through_guarded rfl (ih hbody v next hs)
    | _ => cases hs
  | labelled_match hg _ ho _ => exact fun _ v next hs => by cases hs; cases ho
  | labelled_fails hg _ _ ih =>
    intro hc v next hs
    have hbody := hc.inner (Grammar.standard_of_body? (by rw [hg]; rfl) hc.grammar)
    exact .through_labelled hg (ih hbody v next hs)
  | sequence _ _ ih | choice _ _ ih | many _ _ ih => exact fun _ v next hs => absurd hs (ih v next)
  | parts_cons _ _ _ ih' => exact fun w next => Step.cons_ne_rejected ih' _ w next
  | iterations_next _ _ _ _ ih' => exact fun w next => Step.cons_ne_rejected ih' _ w next
  | alternatives_match _ ho _ => exact fun v next hs => by cases hs; cases ho
  | alternatives_next _ _ _ _ ih' => exact ih'
  | parts_nil | parts_fails _ _ _ | parts_error _ _ | alternatives_nil | alternatives_error _ _
  | iterations_stop _ _ _ | iterations_stall _ _ | iterations_error _ _ => exact fun _ _ => nofun

/-! ## The contract -/

/-- What is promised of the answer of a definition at a position. -/
structure Step.Contract (rules : Rules) (input : List Char) (c : Closure) (position : Nat)
    (step : Step) : Prop where
  match_value : ∀ o, step = .ok o → o.matched = true → o.value?.isSome
  next : ∀ o, step = .ok o → Text.Onward input position o.next
  failure_value : ∀ o v, step = .ok o → o.matched = false → o.value? = some v →
    Rejects rules input position v o.next c
  stalled : ∀ stalled, step = .error (.zeroWidthRepetition stalled) →
    Text.Onward input position stalled

theorem Derives.contract (hrules : rules.Standard) {c : Closure} {step : Step}
    {failures : List Failure} (h : Derives rules input (.whole c) position step failures)
    (hc : c.Standard) (hp : Text.isBoundary input position = true) :
    step.Contract rules input c position := by
  have hon := (h.onward hrules (List.forall_mem_singleton.2 hc) hp).1
  have hup := h.handsUp hrules hc
  constructor
  · exact fun o _ => Outcome.value?_isSome_of_matched
  · rintro o rfl
    exact hon
  · rintro o v rfl hm hv
    cases o with
    | success w next => cases hm
    | failure next => cases hv
    | rejected w next => cases hv; exact hup v next rfl
  · rintro stalled rfl
    exact hon

end

namespace Session

/-- However a session of a grammar without custom parts has been used, an invocation on a boundary
keeps the contract, and so does all that it records. -/
theorem invoke_contract {rules : Rules} {grammar : Grammar} {options : ReaderOptions}
    {tracked : Bool} {s₀ s s' : Session} {store : Store} {input : List Char} {position : Nat}
    {step : Step}
    (hrules : rules.Standard) (hgrammar : grammar.standard = true)
    (hstart : start rules grammar options tracked = (.ok s₀, store)) (hreach : Reaches s₀ s)
    (hp : Text.isBoundary input position = true)
    (hs : s.invoke input position = some (step, s')) :
    step.Contract rules input (grammar.closed rules) position ∧
      ∃ failures, Derives rules input (.whole (grammar.closed rules)) position step failures ∧
        s'.store.tracker = s.store.tracker.recordAll failures ∧
        ∀ f ∈ failures, Text.Onward input position f.position := by
  have hc : (grammar.closed rules).Standard := .mk hgrammar fun _ ha => nomatch ha
  obtain ⟨failures, hd, ht⟩ := ((sound_start hstart).reaches hreach).exists_derives hs
  exact ⟨hd.contract hrules hc hp, failures, hd, ht,
    (hd.onward hrules (List.forall_mem_singleton.2 hc) hp).2⟩

/-- The letter in its parentheses, from the second parenthesis on. -/
theorem invoke_contract_nested :
    ∃ s s' step, nested.standard = true ∧ (start [] nested {} false).1 = .ok s ∧
      s.invoke "((x))".toList 1 = some (step, s') ∧
      step.Contract [] "((x))".toList (nested.closed []) 1 ∧
      ∃ failures, Derives [] "((x))".toList (.whole (nested.closed [])) 1 step failures ∧
        s'.store.tracker = s.store.tracker.recordAll failures ∧
        ∀ f ∈ failures, Text.Onward "((x))".toList 1 f.position := by
  let built := nested.build [] [] Store.empty
  let s := settle ⟨some { parser := .rule 0 }, built.2⟩ built.2
  have hs : s.invoke "((x))".toList 1 = some (_, _) := @invoke_of_run s _ _ _ 20 _ _ rfl rfl
  have hstart : start [] nested {} false = (.ok s, _) := rfl
  have hrules : Rules.Standard [] := fun _ ha => nomatch ha
  obtain ⟨h, hf⟩ := invoke_contract hrules rfl hstart .refl (by decide) hs
  exact ⟨s, _, _, rfl, rfl, hs, h, hf⟩

end Session

end Descent
