import Descent.Proofs.Meaning.Contract
import Mathlib.Logic.Relation

/-!
# What a definition may invoke

To invoke a definition is to invoke its parts, or what it means; `Closure.Leads` follows such calls
any number of times. What holds of all definitions that a grammar leads to is an invariant of its
derivations. `Grammar.Every` is about the text of a grammar, and carries over to all that the
grammar leads to (`Closure.Every.always`).
-/

namespace Descent

namespace Grammar

/-- The definitions that a definition invokes itself. -/
def parts : Grammar → List Grammar
  | sequence parts => parts
  | choice alternatives => alternatives
  | many body => [body]
  | g => g.body?.toList

theorem parts_of_body? {g body : Grammar} (h : g.body? = some body) : g.parts = [body] := by
  cases g <;> cases h <;> rfl

/-- What stands for another definition, which may be elsewhere. -/
def isName : Grammar → Bool
  | deferred _ | rule _ | bind _ _ _ | recursive _ _ _ _ | var _ => true
  | _ => false

/-- A rule, or a call of one by its name. -/
def isRule : Grammar → Bool
  | recursive _ _ _ _ | rule _ => true
  | _ => false

theorem sizeOf_lt_of_mem_parts {g g' : Grammar} (h : g' ∈ g.parts) : sizeOf g' < sizeOf g := by
  cases g with
  | sequence gs | choice gs =>
    have : sizeOf g' < sizeOf gs := List.sizeOf_lt_of_mem h
    simp only [sequence.sizeOf_spec, choice.sizeOf_spec]
    omega
  | many body | optional body | transform f body | tryTransform f body | tag accepts body
  | guarded accepts body | labelled label body =>
    obtain rfl := List.mem_singleton.1 h
    simp +arith
  | _ => cases h

/-! ## All that a grammar is made of -/

mutual

/-- The definition and all that stand in it have the property. -/
def Every (P : Grammar → Prop) : Grammar → Prop
  | literal text => P (literal text)
  | charClass set negate => P (charClass set negate)
  | pattern expression ignoreCase => P (pattern expression ignoreCase)
  | custom answer => P (custom answer)
  | sequence parts => P (sequence parts) ∧ EveryOne P parts
  | choice alternatives => P (choice alternatives) ∧ EveryOne P alternatives
  | many body => P (many body) ∧ body.Every P
  | optional body => P (optional body) ∧ body.Every P
  | deferred body => P (deferred body) ∧ body.Every P
  | rule name => P (rule name)
  | bind name definition body =>
    P (bind name definition body) ∧ definition.Every P ∧ body.Every P
  | recursive name exposed probed body =>
    P (recursive name exposed probed body) ∧ body.Every P
  | var name => P (var name)
  | transform f body => P (transform f body) ∧ body.Every P
  | tryTransform f body => P (tryTransform f body) ∧ body.Every P
  | tag accepts body => P (tag accepts body) ∧ body.Every P
  | guarded accepts body => P (guarded accepts body) ∧ body.Every P
  | labelled label body => P (labelled label body) ∧ body.Every P

def EveryOne (P : Grammar → Prop) : List Grammar → Prop
  | [] => True
  | g :: gs => g.Every P ∧ EveryOne P gs

end

section
variable {P : Grammar → Prop}

theorem everyOne_iff {gs : List Grammar} : EveryOne P gs ↔ ∀ g ∈ gs, g.Every P := by
  induction gs with
  | nil => simp [EveryOne]
  | cons g gs ih => simp [EveryOne, ih]

theorem Every.here {g : Grammar} (h : g.Every P) : P g := by
  cases g <;> first | exact h | exact h.1

theorem Every.part {g g' : Grammar} (h : g.Every P) (hg : g' ∈ g.parts) : g'.Every P := by
  cases g with
  | sequence gs | choice gs => exact everyOne_iff.1 h.2 g' hg
  | many body | optional body | transform f body | tryTransform f body | tag accepts body
  | guarded accepts body | labelled label body =>
    obtain rfl := List.mem_singleton.1 hg
    exact h.2
  | _ => cases hg

end

end Grammar

/-! ## Calls -/

namespace Closure

/-- To invoke `c` may be to invoke `c'`. -/
inductive Calls (rules : Rules) : Closure → Closure → Prop
  | means {c c' : Closure} : c.Means rules c' → Calls rules c c'
  | part {c : Closure} {g : Grammar} : g ∈ c.grammar.parts → Calls rules c (c.inner g)

/-- Invoking `c` may come to invoking `c'`, there or elsewhere in the input. -/
abbrev Leads (rules : Rules) : Closure → Closure → Prop := Relation.ReflTransGen (Calls rules)

/-- All that invoking `c` may come to, `c` included, has the property. -/
def Always (rules : Rules) (P : Closure → Prop) (c : Closure) : Prop :=
  ∀ c', c.Leads rules c' → P c'

variable {rules : Rules} {c c' : Closure}

section
variable {P : Closure → Prop}

theorem Always.here (h : c.Always rules P) : P c := h c .refl

theorem Always.calls (h : c.Always rules P) (hc : c.Calls rules c') : c'.Always rules P :=
  fun c'' h' => h c'' (.head hc h')

theorem Always.leads (h : c.Always rules P) (hc : c.Leads rules c') : c'.Always rules P :=
  fun c'' h' => h c'' (hc.trans h')

theorem Always.body (h : c.Always rules P) {g : Grammar} (hg : c.grammar.body? = some g) :
    (c.inner g).Always rules P :=
  h.calls (.part (by simp [Grammar.parts_of_body? hg]))

/-- What holds of all that a definition leads to holds of its parts. -/
theorem Always.all (h : c.Always rules P) {gs : List Grammar} (hgs : c.grammar.parts = gs) :
    ∀ c' ∈ gs.map c.inner, c'.Always rules P := by
  intro c' hc
  obtain ⟨g, hg, rfl⟩ := List.mem_map.1 hc
  exact h.calls (.part (by rwa [hgs]))

end

theorem Standard.calls (hrules : rules.Standard) (h : c.Standard) (hc : c.Calls rules c') :
    c'.Standard := by
  cases hc with
  | means hm => exact h.means hrules hm
  | @part g hg =>
    have hs := h.grammar
    obtain ⟨g', d, ρ⟩ := c
    cases g' with
    | sequence gs | choice gs =>
      rw [Grammar.standard] at hs
      exact h.inner (Grammar.standard_of_mem hs g hg)
    | many body =>
      obtain rfl := List.mem_singleton.1 hg
      exact h.inner hs
    | optional body | transform f body | tryTransform f body | tag accepts body
    | guarded accepts body | labelled label body =>
      obtain rfl := List.mem_singleton.1 hg
      exact h.inner (Grammar.standard_of_body? rfl hs)
    | _ => cases hg

theorem Standard.always (hrules : rules.Standard) (h : c.Standard) : c.Always rules Standard := by
  intro c' hc
  induction hc with
  | refl => exact h
  | tail _ hc ih => exact ih.calls hrules hc

/-- All that the definition and those in its scope are made of has the property. -/
inductive Every (P : Grammar → Prop) : Closure → Prop
  | mk {g : Grammar} {d : Nat} {ρ : List (String × Closure)} : g.Every P →
      (∀ a ∈ ρ, Every P a.2) → Every P ⟨g, d, ρ⟩

section
variable {P : Grammar → Prop}

theorem Every.calls (hrules : ∀ a ∈ rules, a.2.Every P) (h : c.Every P)
    (hc : c.Calls rules c') : c'.Every P := by
  cases h with
  | mk hg hρ =>
    cases hc with
    | part hp => exact .mk (hg.part hp) hρ
    | means hm =>
      cases hm with
      | var hl => exact hρ _ (mem_of_lookup hl)
      | bind => exact .mk hg.2.2 (List.forall_mem_cons.2 ⟨.mk hg.2.1 hρ, hρ⟩)
      | rule hl => exact .mk (hrules _ (mem_of_lookup hl)) hρ
      | recursive => exact .mk hg.2 (List.forall_mem_cons.2 ⟨.mk hg hρ, hρ⟩)
      | deferred _ => exact .mk hg.2 hρ

/-- What is true of all that a grammar and the rules are made of is true of all that the grammar
leads to. -/
theorem Every.always (hrules : ∀ a ∈ rules, a.2.Every P) (h : c.Every P) :
    c.Always rules fun c' => P c'.grammar := by
  intro c' hc
  have h' : c'.Every P := by
    induction hc with
    | refl => exact h
    | tail _ hc ih => exact ih.calls hrules hc
  cases h' with
  | mk hg _ => exact hg.here

end

end Closure

theorem Grammar.Every.always {rules : Rules} {P : Grammar → Prop} {g : Grammar}
    (hrules : ∀ a ∈ rules, a.2.Every P) (h : g.Every P) :
    (g.closed rules).Always rules fun c => P c.grammar :=
  Closure.Every.always hrules (.mk h (List.forall_mem_nil _))

end Descent
