import Descent.Proofs.Meaning.Raises

/-!
# Names that stand for something

That a rule is undefined or detached is what a name without meaning answers, or a custom leaf, and no
other definition that is invoked on the way (`Derives.exists_not_linked`): a rule and its handle always
mean the body of the rule. Whether all names of a grammar have a meaning can be seen from its text,
where it makes no use of named definitions (`Closure.SelfContained.always_linked`).
-/

namespace Descent

/-- The error of a handle without a rule: the rule is not there yet, or not any more. -/
def GrammarError.ruleless : GrammarError → Bool
  | undefinedRule | detachedRule => true
  | zeroWidthRepetition _ | invalidPattern _ => false

namespace Closure

/-- A name that stands for nothing. -/
inductive Unbound (rules : Rules) : Closure → Prop
  | var {name : String} {d : Nat} {ρ : List (String × Closure)} :
      ρ.lookup name = none → Unbound rules ⟨.var name, d, ρ⟩
  | rule {name : String} {d : Nat} {ρ : List (String × Closure)} :
      d = 0 ∨ rules.lookup name = none → Unbound rules ⟨.rule name, d, ρ⟩

/-- The definition is no name that stands for nothing, and no custom leaf that answers as a handle
without a rule does. -/
structure Linked (rules : Rules) (c : Closure) : Prop where
  bound : ¬ c.Unbound rules
  leaf : ∀ answer, c.grammar = .custom answer → ∀ input position error,
    answer input position = .error error → error.ruleless = false

variable {rules : Rules} {c : Closure} {error : GrammarError}

/-- Of what has nothing behind it, only a name answers as a handle without a rule does. -/
theorem Dangles.unbound (h : c.Dangles rules error) (he : error.ruleless = true) :
    c.Unbound rules := by
  cases h with
  | var hl => exact .var hl
  | rule hl => exact .rule hl
  | deferred hf =>
    obtain ⟨expression, rfl⟩ := Grammar.exists_of_fault hf
    cases he

end Closure

section
variable {rules : Rules} {input : List Char} {task : Task} {position : Nat} {error : GrammarError}
  {failures : List Failure}

/-- Where the error of a handle without a rule comes from. -/
theorem Derives.exists_not_linked
    (h : Derives rules input task position (.error error) failures)
    (he : error.ruleless = true) :
    ∃ c ∈ task.closures, ∃ c', c.Leads rules c' ∧ ¬ c'.Linked rules := by
  obtain ⟨c, hc, c', hl, hr⟩ | ⟨_, _, _, -, rfl, -⟩ := h.exists_raises
  · refine ⟨c, hc, c', hl, fun hlinked => ?_⟩
    cases hr with
    | dangles hd => exact hlinked.bound (hd.unbound he)
    | custom hg ha =>
      rw [hlinked.leaf _ hg _ _ _ ha] at he
      cases he
    | stalls _ _ => cases he
  · cases he

/-- Where all names are bound, no answer is that of a handle without a rule. -/
theorem Closure.Always.ne_ruleless {c : Closure} (h : c.Always rules (Linked rules))
    (hd : Derives rules input (.whole c) position (.error error) failures) :
    error ≠ .undefinedRule ∧ error ≠ .detachedRule := by
  have hr : ¬ error.ruleless = true := by
    intro he
    obtain ⟨c₁, hc₁, c', hl, hn⟩ := hd.exists_not_linked he
    obtain rfl := List.mem_singleton.1 hc₁
    exact hn (h c' hl)
  constructor <;> rintro rfl <;> exact hr rfl

end

/-! ## Grammars that stand on their own -/

namespace Grammar

mutual

/-- All names are bound, here or as those given, and there are no custom leaves. -/
def selfContained (names : List String) : Grammar → Bool
  | literal _ | charClass _ _ | pattern _ _ => true
  | custom _ | rule _ => false
  | sequence parts => selfContainedAll names parts
  | choice alternatives => selfContainedAll names alternatives
  | many body => body.selfContained names
  | optional body => body.selfContained names
  | deferred body => body.selfContained names
  | bind name definition body =>
    definition.selfContained names && body.selfContained (name :: names)
  | recursive name _ _ body => body.selfContained (name :: names)
  | var name => names.contains name
  | transform _ body => body.selfContained names
  | tryTransform _ body => body.selfContained names
  | tag _ body => body.selfContained names
  | guarded _ body => body.selfContained names
  | labelled _ body => body.selfContained names

def selfContainedAll (names : List String) : List Grammar → Bool
  | [] => true
  | g :: gs => g.selfContained names && selfContainedAll names gs

end

theorem selfContained_of_mem {names : List String} {gs : List Grammar}
    (h : selfContainedAll names gs = true) : ∀ g ∈ gs, g.selfContained names = true := by
  induction gs with
  | nil => exact List.forall_mem_nil _
  | cons g gs ih =>
    rw [selfContainedAll, Bool.and_eq_true] at h
    exact List.forall_mem_cons.2 ⟨h.1, ih h.2⟩

theorem selfContained_part {names : List String} {g g' : Grammar}
    (h : g.selfContained names = true) (hg : g' ∈ g.parts) : g'.selfContained names = true := by
  cases g with
  | sequence gs | choice gs => exact selfContained_of_mem h g' hg
  | many body | optional body | transform f body | tryTransform f body | tag accepts body
  | guarded accepts body | labelled label body =>
    obtain rfl := List.mem_singleton.1 hg
    exact h
  | _ => cases hg

end Grammar

namespace Closure

/-- The definition and those in its scope are self-contained. -/
inductive SelfContained : Closure → Prop
  | mk {g : Grammar} {d : Nat} {ρ : List (String × Closure)} :
      g.selfContained (ρ.map Prod.fst) = true → (∀ a ∈ ρ, SelfContained a.2) →
      SelfContained ⟨g, d, ρ⟩

variable {rules : Rules} {c c' : Closure}

theorem SelfContained.calls (h : c.SelfContained) (hc : c.Calls rules c') : c'.SelfContained := by
  cases h with
  | mk hg hρ =>
    cases hc with
    | part hp => exact .mk (Grammar.selfContained_part hg hp) hρ
    | means hm =>
      cases hm with
      | var hl => exact hρ _ (mem_of_lookup hl)
      | bind =>
        rw [Grammar.selfContained, Bool.and_eq_true] at hg
        exact .mk hg.2 (List.forall_mem_cons.2 ⟨.mk hg.1 hρ, hρ⟩)
      | rule hl => cases hg
      | recursive => exact .mk hg (List.forall_mem_cons.2 ⟨.mk hg hρ, hρ⟩)
      | deferred _ => exact .mk hg hρ

theorem SelfContained.linked (h : c.SelfContained) : c.Linked rules := by
  cases h with
  | @mk g d ρ hg hρ =>
    refine ⟨fun hu => ?_, fun answer ha => ?_⟩
    · cases hu with
      | @var name _ _ hl =>
        rw [Grammar.selfContained, List.contains_iff_mem, List.mem_map] at hg
        obtain ⟨a, ha, rfl⟩ := hg
        rw [List.lookup_eq_none_iff] at hl
        simpa using hl a ha
      | rule _ => cases hg
    · cases ha
      cases hg

/-- All that a self-contained grammar leads to is linked. -/
theorem SelfContained.always_linked (h : c.SelfContained) : c.Always rules (Linked rules) := by
  intro c' hc
  have h' : c'.SelfContained := by
    induction hc with
    | refl => exact h
    | tail _ hc ih => exact ih.calls hc
  exact h'.linked

end Closure

end Descent
