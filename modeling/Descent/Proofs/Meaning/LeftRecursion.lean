import Descent.Proofs.Meaning.Calls
import Descent.Proofs.Meaning.Matches

/-!
# Left recursion

`c.Starts rules c'`: invoking `c` may come to invoking `c'` at the very same position. A part of a
sequence is passed over if it may match the empty text; one that cannot (`Closure.Advances`) keeps
the parts behind it from being started. `Advances` speaks of all inputs, so that whatever a sound
check of the definitions finds to advance does. A rule that starts itself is left-recursive
(`Closure.LeftRecursive`). Where a definition leads to no such rule, starting one definition after
another comes to an end (`Closure.grounded`).
-/

namespace Descent

namespace Closure

/-- The definition matches no empty text. -/
def Advances (rules : Rules) (c : Closure) : Prop :=
  ∀ (input : List Char) (position next : Nat) (v : Value),
    Text.isBoundary input position = true → Matches rules input c position v next →
    next ≠ position

/-- Invoking `c` may come to invoking `c'` at the same position. -/
inductive Starts (rules : Rules) : Closure → Closure → Prop
  | means {c c' : Closure} : c.Means rules c' → Starts rules c c'
  | body {c : Closure} {g : Grammar} : c.grammar.body? = some g → Starts rules c (c.inner g)
  | many {c : Closure} {g : Grammar} : c.grammar = .many g → Starts rules c (c.inner g)
  | choice {c : Closure} {g : Grammar} {gs : List Grammar} : c.grammar = .choice gs → g ∈ gs →
      Starts rules c (c.inner g)
  | sequence {c : Closure} {g : Grammar} {front back : List Grammar} :
      c.grammar = .sequence (front ++ g :: back) →
      (∀ g' ∈ front, ¬ (c.inner g').Advances rules) → Starts rules c (c.inner g)

/-- A rule that may come back to itself at the position it was invoked at: by its handle, or by a
call of its name, where the names in scope are those of before and maybe more. -/
inductive LeftRecursive (rules : Rules) : Closure → Prop
  | recursive {name : String} {exposed probed : Bool} {body : Grammar} {d : Nat}
      {ρ : List (String × Closure)} :
      Relation.TransGen (Starts rules) ⟨.recursive name exposed probed body, d, ρ⟩
        ⟨.recursive name exposed probed body, d, ρ⟩ →
      LeftRecursive rules ⟨.recursive name exposed probed body, d, ρ⟩
  | rule {name : String} {d : Nat} {ρ ρ' : List (String × Closure)} :
      Relation.TransGen (Starts rules) ⟨.rule name, d, ρ⟩ ⟨.rule name, d, ρ' ++ ρ⟩ →
      LeftRecursive rules ⟨.rule name, d, ρ⟩

/-- Starting one definition after another, from this one on, comes to an end. -/
def Grounded (rules : Rules) (c : Closure) : Prop := Acc (flip (Starts rules)) c

variable {rules : Rules} {c c' : Closure}

theorem Starts.calls (h : c.Starts rules c') : c.Calls rules c' := by
  cases h with
  | means hm => exact .means hm
  | body hg => exact .part (by simp [Grammar.parts_of_body? hg])
  | many hg => exact .part (by simp [hg, Grammar.parts])
  | choice hg hmem => exact .part (by simpa [hg, Grammar.parts] using hmem)
  | sequence hg _ => exact .part (by simp [hg, Grammar.parts])

theorem leads_of_starts (h : Relation.ReflTransGen (Starts rules) c c') : c.Leads rules c' :=
  Relation.ReflTransGen.mono (fun _ _ => Starts.calls) _ _ h

/-! ## Starting comes to an end -/

/-- Of the calls of rules, by name and depth, those of `todo` may still be met; the others have come
to `c` already, with names that are still in scope. -/
structure Pending (rules : Rules) (bound : Nat) (todo : List (String × Nat)) (c : Closure) :
    Prop where
  depth_le : c.depth ≤ bound
  length_le : rules.length ≤ bound
  always : c.Always rules fun c' => ¬ c'.LeftRecursive rules
  met : ∀ name ∈ rules.map Prod.fst, ∀ d ≤ bound, (name, d) ∈ todo ∨
    ∃ front ρ, c.scope = front ++ ρ ∧ ¬ LeftRecursive rules ⟨.rule name, d, ρ⟩ ∧
      Relation.TransGen (Starts rules) ⟨.rule name, d, ρ⟩ c
  scope : ∀ a ∈ c.scope, Relation.ReflTransGen (Starts rules) c a.2 → a.2.Grounded rules

section
variable {rules : Rules} {bound : Nat} {todo : List (String × Nat)} {c c' : Closure}

/-- The calls that are left are the same for all that is started with no fewer names. -/
theorem Pending.starts (h : c.Pending rules bound todo)
    (hs : Relation.TransGen (Starts rules) c c') (hd : c'.depth ≤ bound)
    (front : List (String × Closure)) (hscope : c'.scope = front ++ c.scope)
    (hfront : ∀ a ∈ front, Relation.ReflTransGen (Starts rules) c' a.2 → a.2.Grounded rules) :
    c'.Pending rules bound todo where
  depth_le := hd
  length_le := h.length_le
  always := h.always.leads (leads_of_starts hs.to_reflTransGen)
  met := by
    intro name hname d hd
    obtain hm | ⟨front', ρ, heq, hn, hp⟩ := h.met name hname d hd
    · exact .inl hm
    · exact .inr ⟨front ++ front', ρ, by rw [hscope, heq, List.append_assoc], hn, hp.trans hs⟩
  scope := by
    intro a ha hp
    rw [hscope, List.mem_append] at ha
    obtain ha | ha := ha
    · exact hfront a ha hp
    · exact h.scope a ha (hs.to_reflTransGen.trans hp)

/-- A call that is met is not left any more. -/
theorem Pending.rule {name : String} {definition : Grammar} {d : Nat}
    {ρ : List (String × Closure)} (h : Pending rules bound todo ⟨.rule name, d + 1, ρ⟩)
    (hl : rules.lookup name = some definition) :
    (name, d + 1) ∈ todo ∧ Pending rules bound (todo.erase (name, d + 1)) ⟨definition, d, ρ⟩ := by
  have hs : Starts rules ⟨.rule name, d + 1, ρ⟩ ⟨definition, d, ρ⟩ := .means (.rule hl)
  have hname : name ∈ rules.map Prod.fst := List.mem_map_of_mem (mem_of_lookup hl)
  constructor
  · obtain hm | ⟨front, ρ', heq, hn, hp⟩ := h.met name hname _ h.depth_le
    · exact hm
    · subst heq
      exact absurd (.rule hp) hn
  · have h' := h.starts (.single hs) (Nat.le_of_succ_le h.depth_le) [] rfl (List.forall_mem_nil _)
    refine { h' with met := fun name' hname' d' hd' => ?_ }
    by_cases heq : (name', d') = (name, d + 1)
    · obtain ⟨rfl, rfl⟩ := Prod.mk.inj heq
      exact .inr ⟨[], ρ, rfl, h.always.here, .single hs⟩
    · exact (h'.met name' hname' d' hd').imp (List.mem_erase_of_ne heq).2 id

/-- All that is started is smaller, or is behind a call that was still left. -/
theorem Pending.grounded (todo : List (String × Nat)) (c : Closure)
    (h : c.Pending rules bound todo) : c.Grounded rules := by
  refine .intro _ fun c' hs => ?_
  have hpath : Relation.TransGen (Starts rules) c c' := .single hs
  cases hs.calls with
  | part hg =>
    have := Grammar.sizeOf_lt_of_mem_parts hg
    exact Pending.grounded todo _ (h.starts hpath h.depth_le [] rfl (List.forall_mem_nil _))
  | means hm =>
    cases hm with
    | var hl => exact h.scope _ (mem_of_lookup hl) (.single hs)
    | @bind name definition body d ρ =>
      refine Pending.grounded todo ⟨body, d, _⟩ (h.starts hpath h.depth_le [_] rfl ?_)
      intro a ha hp
      obtain rfl := List.mem_singleton.1 ha
      exact Pending.grounded todo ⟨definition, d, ρ⟩
        (h.starts (.trans_left hpath hp) h.depth_le [] rfl (List.forall_mem_nil _))
    | rule hl =>
      obtain ⟨hm, h'⟩ := h.rule hl
      have := List.length_erase_of_mem hm
      have := List.length_pos_of_mem hm
      exact Pending.grounded _ _ h'
    | recursive =>
      refine Pending.grounded todo _ (h.starts hpath h.depth_le [_] rfl ?_)
      intro a ha hp
      obtain rfl := List.mem_singleton.1 ha
      exact absurd (.recursive (.trans_left hpath hp)) h.always.here
    | deferred _ =>
      exact Pending.grounded todo _ (h.starts hpath h.length_le [] rfl (List.forall_mem_nil _))
termination_by (todo.length, sizeOf c.grammar)

/-- A definition that leads to no left-recursive rule is grounded. -/
theorem grounded (c : Closure) (h : c.Always rules fun c' => ¬ c'.LeftRecursive rules) :
    c.Grounded rules := by
  let bound := max c.depth rules.length
  let todo := (rules.map Prod.fst) ×ˢ List.range (bound + 1)
  refine @Pending.grounded rules bound todo c
    ⟨Nat.le_max_left .., Nat.le_max_right .., h, fun name hname d hd => .inl ?_,
      fun a ha hp => ?_⟩
  · exact List.pair_mem_product.2 ⟨hname, List.mem_range.2 (Nat.lt_succ_of_le hd)⟩
  · have : sizeOf a.2 < sizeOf c := by
      have hlt : sizeOf a < sizeOf c.scope := List.sizeOf_lt_of_mem ha
      obtain ⟨name, c'⟩ := a
      obtain ⟨g, d, ρ⟩ := c
      simp only [Prod.mk.sizeOf_spec, mk.sizeOf_spec] at hlt ⊢
      omega
    exact grounded a.2 (h.leads (leads_of_starts hp))
termination_by sizeOf c

end

/-! ## Definitions without left recursion -/

section
variable {rules : Rules} {c c' : Closure}

theorem grounded_of_means (hm : c.Means rules c') (h : c'.Grounded rules) : c.Grounded rules := by
  refine .intro _ fun c'' hs => ?_
  cases hs.calls with
  | means hm' => rwa [hm'.unique hm]
  | part hg => cases hm <;> cases hg

/-- A combinator starts parts of its own. -/
theorem Starts.exists_part (hn : c.grammar.isName = false) (hs : c.Starts rules c') :
    ∃ g ∈ c.grammar.parts, c' = c.inner g := by
  cases hs.calls with
  | means hm => cases hm <;> cases hn
  | part hg => exact ⟨_, hg, rfl⟩

theorem grounded_of_parts (hn : c.grammar.isName = false)
    (h : ∀ g ∈ c.grammar.parts, (c.inner g).Grounded rules) : c.Grounded rules := by
  refine .intro _ fun c' hs => ?_
  obtain ⟨g, hg, rfl⟩ := hs.exists_part hn
  exact h g hg

/-- A sequence starts only its first part, if that is one that advances. -/
theorem Starts.eq_of_advances {g : Grammar} {gs : List Grammar}
    (hg : c.grammar = .sequence (g :: gs)) (ha : (c.inner g).Advances rules)
    (hs : c.Starts rules c') : c' = c.inner g := by
  cases hs with
  | means hm => cases hm <;> cases hg
  | body hg' => rw [hg] at hg'; cases hg'
  | many hg' | choice hg' _ => rw [hg] at hg'; cases hg'
  | @sequence g' front back hg' hfront =>
    rw [hg, Grammar.sequence.injEq] at hg'
    cases front with
    | nil => rw [(List.cons.inj hg').1]
    | cons g₀ front =>
      obtain ⟨rfl, -⟩ := List.cons.inj hg'
      exact absurd ha (hfront _ List.mem_cons_self)

theorem grounded_of_advances {g : Grammar} {gs : List Grammar}
    (hg : c.grammar = .sequence (g :: gs)) (ha : (c.inner g).Advances rules)
    (h : (c.inner g).Grounded rules) : c.Grounded rules :=
  .intro _ fun _ hs => Starts.eq_of_advances hg ha hs ▸ h

/-- What mentions no name starts no more than it is made of. -/
theorem grounded_of_every (g : Grammar) (h : g.Every fun g => g.isName = false) (d : Nat)
    (ρ : List (String × Closure)) : Grounded rules ⟨g, d, ρ⟩ := by
  refine grounded_of_parts h.here fun g' hg => ?_
  exact grounded_of_every g' (h.part hg) d ρ
termination_by sizeOf g
decreasing_by exact Grammar.sizeOf_lt_of_mem_parts hg

theorem Grounded.not_transGen (h : c.Grounded rules) :
    ¬ Relation.TransGen (Starts rules) c c := by
  induction h with
  | intro c _ ih =>
    intro hp
    obtain ⟨c', hs, hp'⟩ := Relation.TransGen.head'_iff.1 hp
    exact ih c' hs (.tail' hp' hs)

theorem Grounded.not_leftRecursive (h : c.Grounded rules) (hc : ∀ name, c.grammar ≠ .rule name) :
    ¬ c.LeftRecursive rules := by
  intro hl
  cases hl with
  | recursive hp => exact h.not_transGen hp
  | rule hp => exact hc _ rfl

/-- A call of a rule is not left-recursive if its definition starts only such as `P` says, and that
is no call of the rule. -/
theorem not_leftRecursive_rule {P : Grammar → Prop} {name : String} {d : Nat}
    {ρ : List (String × Closure)}
    (hdefinition : ∀ definition, rules.lookup name = some definition → P definition)
    (hstarts : ∀ c c' : Closure, P c.grammar → c.Starts rules c' → P c'.grammar)
    (hname : ¬ P (.rule name)) : ¬ LeftRecursive rules ⟨.rule name, d, ρ⟩ := by
  have key : ∀ c', Relation.TransGen (Starts rules) ⟨.rule name, d, ρ⟩ c' → P c'.grammar := by
    intro c' hp
    induction hp with
    | tail _ hs ih => exact hstarts _ _ ih hs
    | single hs =>
      cases hs.calls with
      | part hg => cases hg
      | means hm => cases hm with | rule hl => exact hdefinition _ hl
  intro hl
  cases hl with
  | rule hp => exact hname (key _ hp)

/-- Where `R` is the one rule that anything mentions, only `R` may be left-recursive. -/
theorem Every.always_not_leftRecursive {R : Grammar}
    (hrules : ∀ a ∈ rules, a.2.Every fun g => g.isRule = true → g = R)
    (h : c.Every fun g => g.isRule = true → g = R)
    (hR : ∀ d ρ, ¬ LeftRecursive rules ⟨R, d, ρ⟩) :
    c.Always rules fun c' => ¬ c'.LeftRecursive rules := by
  intro c' hc' hl
  have key := h.always hrules c' hc'
  cases hl with
  | recursive hp =>
    obtain rfl := key rfl
    exact hR _ _ (.recursive hp)
  | rule hp =>
    obtain rfl := key rfl
    exact hR _ _ (.rule hp)

end

end Closure

end Descent
