import Descent.Proofs.Meaning.Follow

/-!
# Two ways to tie a knot

A rule whose body mentions the rule can be defined at once, with a handle that stands for it in its
body (`Knot.recursion`), or as a function that builds the body around a deferred call of itself
(`Knot.deferral`), so that there is a new body, with a new cell, wherever the recursion comes to.
Both answer the same, and so does the body around the rule itself (`Session.knots_agree`).

Each way is a definition of one name in the rules, and the three are compared by what they lead to:
a body is followed in the same body, and a rule in a call that is still deferred, or has just been
made (`Knot.Called`).
-/

namespace Descent

/-- The definition does not mention the rule. -/
abbrev Grammar.Avoids (rule : String) : Grammar → Prop := Grammar.Every (· ≠ .rule rule)

/-- Binds the definitions around another one, the first outermost. -/
def Grammar.bindAll (definitions : List (String × Grammar)) (g : Grammar) : Grammar :=
  definitions.foldr (fun a g => .bind a.1 a.2 g) g

/-- The names in scope within definitions that are bound one in the other. -/
def Closure.captures (d : Nat) :
    List (String × Grammar) → List (String × Closure) → List (String × Closure)
  | [], ρ => ρ
  | a :: l, ρ => captures d l ((a.1, ⟨a.2, d, ρ⟩) :: ρ)

theorem Closure.means_bindAll {rules : Rules} (d : Nat) (g : Grammar)
    (l : List (String × Grammar)) (ρ : List (String × Closure)) :
    Relation.ReflTransGen (Means rules) ⟨.bindAll l g, d, ρ⟩ ⟨g, d, captures d l ρ⟩ := by
  induction l generalizing ρ with
  | nil => exact .refl
  | cons a l ih => exact .head .bind (ih _)

theorem Closure.every_captures {P : Grammar → Prop} {d : Nat} {l : List (String × Grammar)}
    {ρ : List (String × Closure)} (hl : ∀ a ∈ l, a.2.Every P) (hρ : ∀ a ∈ ρ, a.2.Every P) :
    ∀ a ∈ captures d l ρ, a.2.Every P := by
  induction l generalizing ρ with
  | nil => exact hρ
  | cons a l ih =>
    obtain ⟨ha, hl⟩ := List.forall_mem_cons.1 hl
    exact ih hl (List.forall_mem_cons.2 ⟨.mk ha hρ, hρ⟩)

theorem Grammar.fault_bindAll_congr {rules rules' : Rules} {g g' : Grammar}
    {l : List (String × Grammar)} (hl : ∀ a ∈ l, a.2.fault rules = a.2.fault rules')
    (h : g.fault rules = g'.fault rules') :
    (bindAll l g).fault rules = (bindAll l g').fault rules' := by
  induction l with
  | nil => exact h
  | cons a l ih =>
    obtain ⟨ha, hl⟩ := List.forall_mem_cons.1 hl
    exact congrArg₂ Option.or ha (ih hl)

theorem Grammar.fault_of_bindAll {rules : Rules} {g : Grammar} (l : List (String × Grammar))
    (h : (bindAll l g).fault rules = none) : g.fault rules = none := by
  induction l with
  | nil => exact h
  | cons a l ih => exact ih (Option.or_eq_none_iff.1 h).2

/-- A rule, by the name that others call it by, and the body that it is to have, where `name` is to
mean the rule. The body may use the other rules, and definitions that are bound around the rule;
none of all these mentions the rule itself. -/
structure Knot where
  rule : String
  name : String
  body : Grammar
  others : Rules
  captured : List (String × Grammar)
  exposed : Bool
  probed : Bool
  body_avoids : body.Avoids rule
  others_avoid : ∀ a ∈ others, a.2.Avoids rule
  captured_avoid : ∀ a ∈ captured, a.2.Avoids rule

namespace Knot

/-- The rule with a handle to itself. -/
def recursion (k : Knot) : Grammar := .recursive k.name k.exposed k.probed k.body

/-- The body around a deferred call of the rule. -/
def deferral (k : Knot) : Grammar := .bind k.name (.deferred (.rule k.rule)) k.body

/-- The body around the rule with a handle to itself. -/
def unrolled (k : Knot) : Grammar := .bind k.name k.recursion k.body

/-- The rules where the knot is tied by the definition. -/
def rules (k : Knot) (definition : Grammar) : Rules := (k.rule, definition) :: k.others

/-- The rule, with what it captures. -/
def grammar (k : Knot) : Grammar := .bindAll k.captured (.rule k.rule)

variable {k : Knot} {d d' : Grammar}

@[simp] theorem length_rules (k : Knot) (d : Grammar) :
    (k.rules d).length = k.others.length + 1 := rfl

@[simp] theorem lookup_rules_self (k : Knot) (d : Grammar) :
    (k.rules d).lookup k.rule = some d := by
  simp [rules]

theorem lookup_rules {name : String} (h : name ≠ k.rule) :
    (k.rules d).lookup name = k.others.lookup name := by
  simp [rules, List.lookup_cons, beq_eq_false_iff_ne.2 h]

/-! ## Building -/

mutual

theorem faultWith_congr {rule : String} {named named' : String → Option GrammarError}
    (h : ∀ name ≠ rule, named name = named' name) :
    ∀ g : Grammar, g.Avoids rule → g.faultWith named = g.faultWith named'
  | .pattern _ _, _ | .literal _, _ | .charClass _ _, _ | .custom _, _ | .deferred _, _
  | .var _, _ => rfl
  | .rule name, hg => h name fun heq => hg (by rw [heq])
  | .sequence gs, hg => faultAll_congr h gs hg.2
  | .choice gs, hg => faultAll_congr h gs hg.2
  | .bind _ definition body, hg => by
    rw [Grammar.faultWith, Grammar.faultWith, faultWith_congr h definition hg.2.1,
      faultWith_congr h body hg.2.2]
  | .many body, hg => faultWith_congr h body hg.2
  | .optional body, hg => faultWith_congr h body hg.2
  | .recursive _ _ _ body, hg => faultWith_congr h body hg.2
  | .transform _ body, hg => faultWith_congr h body hg.2
  | .tryTransform _ body, hg => faultWith_congr h body hg.2
  | .tag _ body, hg => faultWith_congr h body hg.2
  | .guarded _ body, hg => faultWith_congr h body hg.2
  | .labelled _ body, hg => faultWith_congr h body hg.2

theorem faultAll_congr {rule : String} {named named' : String → Option GrammarError}
    (h : ∀ name ≠ rule, named name = named' name) :
    ∀ gs : List Grammar, Grammar.EveryOne (· ≠ .rule rule) gs →
      Grammar.faultAll named gs = Grammar.faultAll named' gs
  | [], _ => rfl
  | g :: gs, hgs => by
    rw [Grammar.faultAll, Grammar.faultAll, faultWith_congr h g hgs.1, faultAll_congr h gs hgs.2]

end

theorem faultNamed_rules (k : Knot) (d d' : Grammar) (depth : Nat) :
    ∀ name ≠ k.rule,
      Grammar.faultNamed (k.rules d) depth name = Grammar.faultNamed (k.rules d') depth name := by
  induction depth with
  | zero => exact fun _ _ => rfl
  | succ depth ih =>
    intro name hname
    rw [Grammar.faultNamed, Grammar.faultNamed, lookup_rules hname, lookup_rules hname]
    cases hl : k.others.lookup name with
    | none => rfl
    | some definition =>
      exact faultWith_congr ih definition (k.others_avoid _ (mem_of_lookup hl))

theorem fault_rules {g : Grammar} (hg : g.Avoids k.rule) :
    g.fault (k.rules d) = g.fault (k.rules d') :=
  faultWith_congr (k.faultNamed_rules d d' _) g hg

/-- However the knot is tied, its body is built. -/
theorem fault_rule (hd : d = k.recursion ∨ d = k.deferral ∨ d = k.unrolled) :
    (Grammar.rule k.rule).fault (k.rules d) =
      k.body.faultWith (Grammar.faultNamed (k.rules k.recursion) k.others.length) := by
  have hbody := faultWith_congr (k.faultNamed_rules d k.recursion k.others.length) _ k.body_avoids
  rw [← hbody]
  simp only [Grammar.fault, Grammar.faultWith, length_rules, Grammar.faultNamed, lookup_rules_self]
  obtain rfl | rfl | rfl := hd <;> simp [recursion, deferral, unrolled, Grammar.faultWith]

theorem fault_grammar (hd : d = k.recursion ∨ d = k.deferral ∨ d = k.unrolled) :
    k.grammar.fault (k.rules d) = k.grammar.fault (k.rules k.recursion) :=
  Grammar.fault_bindAll_congr (fun a ha => fault_rules (k.captured_avoid a ha))
    ((fault_rule hd).trans (fault_rule (.inl rfl)).symm)

/-! ## Definitions side by side -/

/-- The same definition on both sides, with names that mean the same or what `Other` relates; and
what `Other` relates. -/
inductive Alongside (rule : String) (Other : Closure → Closure → Prop) : Closure → Closure → Prop
  | same {g : Grammar} {d : Nat} {ρ ρ' : List (String × Closure)} : g.Avoids rule →
      (∀ name, Option.Rel (Alongside rule Other) (ρ.lookup name) (ρ'.lookup name)) →
      Alongside rule Other ⟨g, d, ρ⟩ ⟨g, d, ρ'⟩
  | other {c c' : Closure} : Other c c' → Alongside rule Other c c'

section
variable {Other : Closure → Closure → Prop}

theorem alongside_cons {rule name : String} {c c' : Closure} {ρ ρ' : List (String × Closure)}
    (hc : Alongside rule Other c c')
    (hρ : ∀ name, Option.Rel (Alongside rule Other) (ρ.lookup name) (ρ'.lookup name))
    (name' : String) :
    Option.Rel (Alongside rule Other) (((name, c) :: ρ).lookup name')
      (((name, c') :: ρ').lookup name') := by
  rw [List.lookup_cons, List.lookup_cons]
  cases name' == name with
  | true => exact .some hc
  | false => exact hρ name'

theorem alongside_of_mem {rule : String} {ρ : List (String × Closure)}
    (h : ∀ a ∈ ρ, Alongside rule Other a.2 a.2) (name : String) :
    Option.Rel (Alongside rule Other) (ρ.lookup name) (ρ.lookup name) := by
  cases hl : ρ.lookup name with
  | none => exact .none
  | some c => exact .some (h _ (mem_of_lookup hl))

/-- A definition that avoids the rule, alongside itself. -/
theorem Alongside.refl {rule : String} {c : Closure} (h : c.Every (· ≠ .rule rule)) :
    Alongside rule Other c c := by
  induction h with
  | mk hg _ ih => exact .same hg (alongside_of_mem ih)

/-- Definitions are followed alongside, if what else is related is: names that mean something. -/
theorem follows_alongside (k : Knot) (d d' : Grammar) (input : List Char)
    (hname : ∀ {c c'}, Other c c' → c.grammar.isName = true)
    (hmeans : ∀ {c c' c₁}, Other c c' → c.Means (k.rules d) c₁ →
      ∃ c₁', Relation.ReflTransGen (Closure.Means (k.rules d')) c' c₁' ∧
        Alongside k.rule Other c₁ c₁')
    (hdangles : ∀ {c c' error}, Other c c' → ¬ c.Dangles (k.rules d) error) :
    Follows (k.rules d) (k.rules d') input input Eq (Alongside k.rule Other) where
  positions := ⟨fun _ _ _ h h' => h.trans h'.symm, fun _ _ _ h h' => h.symm.trans h'⟩
  recognizes := by
    rintro c c' position _ step hR rfl h
    cases hR with
    | same _ _ => exact ⟨step, h, .refl (fun _ => rfl) step⟩
    | other ho => exact absurd (hname ho) (by simp [h.isName_eq]) -- a leaf is no name
  combinator := by
    intro c c' hR hn
    cases hR with
    | same _ _ => rfl
    | other ho => exact absurd (hname ho) (by simp [hn])
  part := by
    intro c c' g hR hn hg
    cases hR with
    | same ha hρ => exact .same (ha.part hg) hρ
    | other ho => exact absurd (hname ho) (by simp [hn])
  means := by
    intro c c' c₁ hR hm
    cases hR with
    | other ho => exact hmeans ho hm
    | @same _ _ ρ ρ' ha hρ =>
      cases hm with
      | @var name _ _ _ hl =>
        have h := hρ name
        rw [hl] at h
        cases hl' : ρ'.lookup name with
        | none => rw [hl'] at h; cases h
        | some c₁' =>
          rw [hl'] at h
          cases h with | some h => exact ⟨c₁', .single (.var hl'), h⟩
      | bind => exact ⟨_, .single .bind, .same ha.2.2 (alongside_cons (.same ha.2.1 hρ) hρ)⟩
      | @rule name _ _ _ hl =>
        -- the two lists of rules differ in the one rule only, which is not named here
        have hname : name ≠ k.rule := fun heq => ha.here (by rw [heq])
        rw [lookup_rules hname] at hl
        have havoids := k.others_avoid _ (mem_of_lookup hl)
        exact ⟨_, .single (.rule (by rwa [lookup_rules hname])), .same havoids hρ⟩
      | recursive => exact ⟨_, .single .recursive, .same ha.2 (alongside_cons (.same ha hρ) hρ)⟩
      | deferred hf =>
        exact ⟨_, .single (.deferred ((fault_rules ha.2).symm.trans hf)), .same ha.2 hρ⟩
  dangles := by
    intro c c' error hR hd
    cases hR with
    | other ho => exact absurd hd (hdangles ho)
    | @same _ _ ρ ρ' ha hρ =>
      cases hd with
      | @var name _ _ hl =>
        have h := hρ name
        rw [hl] at h
        cases hl' : ρ'.lookup name with
        | none => exact .var hl'
        | some c₁' => rw [hl'] at h; cases h
      | @rule name _ _ hl =>
        have hname : name ≠ k.rule := fun heq => ha.here (by rw [heq])
        rw [lookup_rules hname] at hl
        exact .rule (by rwa [lookup_rules hname])
      | deferred hf => exact .deferred ((fault_rules ha.2).symm.trans hf)

end

/-! ## Tying the knot -/

/-- The rule where it is defined at once. -/
def loop (k : Knot) (ρ : List (String × Closure)) : Closure := ⟨k.recursion, k.others.length, ρ⟩

/-- The rule where it is a call: deferred, just made, or that of a body. -/
inductive Called (k : Knot) (ρ : List (String × Closure)) : Closure → Prop
  | deferred : Called k ρ ⟨.deferred (.rule k.rule), k.others.length, ρ⟩
  | made : Called k ρ ⟨.rule k.rule, k.others.length + 1, ρ⟩
  | body : Called k ρ ⟨k.deferral, k.others.length, ρ⟩

section
variable {ρ : List (String × Closure)} {input : List Char} {position : Nat} {step : Step}
  {failures : List Failure}

theorem Called.means_body {c : Closure} (h : k.Called ρ c)
    (hfault : (Grammar.rule k.rule).fault (k.rules k.deferral) = none) :
    Relation.ReflTransGen (Closure.Means (k.rules k.deferral)) c
      ⟨k.body, k.others.length,
        (k.name, ⟨.deferred (.rule k.rule), k.others.length, ρ⟩) :: ρ⟩ := by
  have hbody : Closure.Means (k.rules k.deferral) ⟨k.deferral, k.others.length, ρ⟩ _ := .bind
  have hrule : Closure.Means (k.rules k.deferral) ⟨.rule k.rule, k.others.length + 1, ρ⟩ _ :=
    .rule (k.lookup_rules_self _)
  cases h with
  | body => exact .single hbody
  | made => exact .head hrule (.single hbody)
  | deferred => exact .head (.deferred hfault) (.head hrule (.single hbody))

/-- A call is followed in the rule: it may take two steps to come to its body, and the rule
waits. -/
theorem follows_called (hρ : ∀ a ∈ ρ, a.2.Every (· ≠ .rule k.rule))
    (hfault : (Grammar.rule k.rule).fault (k.rules k.deferral) = none) :
    Follows (k.rules k.deferral) (k.rules k.recursion) input input Eq
      (Alongside k.rule fun c c' => k.Called ρ c ∧ c' = k.loop ρ) := by
  refine follows_alongside k _ _ input ?names ?means ?dangles
  case names =>
    rintro _ _ ⟨hc, -⟩
    cases hc <;> rfl
  case means =>
    rintro _ _ c₁ ⟨hc, rfl⟩ hm
    cases hc with
    | deferred => cases hm with | deferred _ => exact ⟨_, .refl, .other ⟨.made, rfl⟩⟩
    | made =>
      cases hm with
      | rule hl =>
        rw [lookup_rules_self, Option.some.injEq] at hl
        subst hl
        exact ⟨_, .refl, .other ⟨.body, rfl⟩⟩
    | body =>
      cases hm with
      | bind =>
        exact ⟨_, .single .recursive, .same k.body_avoids
          (alongside_cons (.other ⟨.deferred, rfl⟩) (alongside_of_mem fun a ha => .refl (hρ a ha)))⟩
  case dangles =>
    rintro _ _ error ⟨hc, -⟩ hd
    cases hc with
    | deferred =>
      cases hd with
      | deferred hf =>
        rw [hfault] at hf
        cases hf
    | made => cases hd with | rule hl => simp at hl
    | body => cases hd

/-- The rule is followed in a call, whose body is some steps away. -/
theorem follows_loop (hρ : ∀ a ∈ ρ, a.2.Every (· ≠ .rule k.rule))
    (hfault : (Grammar.rule k.rule).fault (k.rules k.deferral) = none) :
    Follows (k.rules k.recursion) (k.rules k.deferral) input input Eq
      (Alongside k.rule fun c c' => c = k.loop ρ ∧ k.Called ρ c') := by
  refine follows_alongside k _ _ input ?names ?means ?dangles
  case names =>
    rintro _ _ ⟨rfl, -⟩
    rfl
  case means =>
    rintro _ _ c₁ ⟨rfl, hc⟩ hm
    cases hm with
    | recursive =>
      exact ⟨_, hc.means_body hfault, .same k.body_avoids
        (alongside_cons (.other ⟨rfl, .deferred⟩) (alongside_of_mem fun a ha => .refl (hρ a ha)))⟩
  case dangles =>
    rintro _ _ error ⟨rfl, -⟩ hd
    cases hd

/-- A call of the rule where it is deferred answers what the rule answers where it is defined at
once. -/
theorem derives_call_iff {c : Closure} (hc : k.Called ρ c)
    (hρ : ∀ a ∈ ρ, a.2.Every (· ≠ .rule k.rule))
    (hfault : (Grammar.rule k.rule).fault (k.rules k.deferral) = none) :
    Derives (k.rules k.deferral) input (.whole c) position step failures ↔
      Derives (k.rules k.recursion) input (.whole (k.loop ρ)) position step failures :=
  ⟨fun h => h.follow_eq (follows_called hρ hfault) (.whole (.other ⟨hc, rfl⟩)),
    fun h => h.follow_eq (follows_loop hρ hfault) (.whole (.other ⟨rfl, hc⟩))⟩

/-- The body around the rule answers what the rule answers. -/
theorem derives_unrolled_iff (hρ : ∀ a ∈ ρ, a.2.Every (· ≠ .rule k.rule)) :
    Derives (k.rules k.unrolled) input (.whole ⟨k.unrolled, k.others.length, ρ⟩) position step
        failures ↔
      Derives (k.rules k.recursion) input (.whole (k.loop ρ)) position step failures := by
  have hrecursion : k.recursion.Avoids k.rule := ⟨nofun, k.body_avoids⟩
  have hbody : Closure.Every (· ≠ .rule k.rule)
      ⟨k.body, k.others.length, (k.name, k.loop ρ) :: ρ⟩ :=
    .mk k.body_avoids (List.forall_mem_cons.2 ⟨.mk hrecursion hρ, hρ⟩)
  have hF : ∀ d d', Follows (k.rules d) (k.rules d') input input Eq
      (Alongside k.rule fun _ _ => False) := fun d d' =>
    follows_alongside k d d' input (fun h => h.elim) (fun h => h.elim) (fun h => h.elim)
  have hbind : Closure.Means (k.rules k.unrolled) ⟨k.unrolled, k.others.length, ρ⟩ _ := .bind
  have hloop : Closure.Means (k.rules k.recursion) (k.loop ρ) _ := .recursive
  rw [derives_means_iff hbind, derives_means_iff hloop]
  exact ⟨fun h => h.follow_eq (hF _ _) (.whole (.refl hbody)),
    fun h => h.follow_eq (hF _ _) (.whole (.refl hbody))⟩

end

/-- The closed grammar where the knot is tied by one definition answers what it answers where the
knot is tied by another. -/
def Equivalent (k : Knot) (d d' : Grammar) : Prop :=
  ∀ (input : List Char) (position : Nat) (step : Step) (failures : List Failure),
    Derives (k.rules d) input (.whole (k.grammar.closed (k.rules d))) position step failures ↔
      Derives (k.rules d') input (.whole (k.grammar.closed (k.rules d'))) position step failures

/-- To compare two ways to tie the knot is to compare the definitions, in one scope. -/
theorem equivalent_of_scopes (h : ∀ (ρ : List (String × Closure)) (input : List Char)
    (position : Nat) (step : Step) (failures : List Failure),
    (∀ a ∈ ρ, a.2.Every (· ≠ .rule k.rule)) →
    (Derives (k.rules d) input (.whole ⟨d, k.others.length, ρ⟩) position step failures ↔
      Derives (k.rules d') input (.whole ⟨d', k.others.length, ρ⟩) position step failures)) :
    k.Equivalent d d' := by
  intro input position step failures
  have hrule : ∀ d, Relation.ReflTransGen (Closure.Means (k.rules d))
      (k.grammar.closed (k.rules d))
      ⟨d, k.others.length, Closure.captures (k.others.length + 1) k.captured []⟩ :=
    fun d => .tail (Closure.means_bindAll _ _ _ _) (.rule (k.lookup_rules_self d))
  rw [derives_meaning_iff (hrule d), derives_meaning_iff (hrule d')]
  exact h _ input position step failures
    (Closure.every_captures k.captured_avoid (List.forall_mem_nil _))

theorem equivalent_deferral (hfault : k.grammar.fault (k.rules k.recursion) = none) :
    k.Equivalent k.recursion k.deferral := by
  have hrule : (Grammar.rule k.rule).fault (k.rules k.deferral) = none :=
    Grammar.fault_of_bindAll k.captured ((fault_grammar (.inr (.inl rfl))).trans hfault)
  exact equivalent_of_scopes fun ρ _ _ _ _ hρ => (derives_call_iff .body hρ hrule).symm

theorem equivalent_unrolled : k.Equivalent k.recursion k.unrolled :=
  equivalent_of_scopes fun _ _ _ _ _ hρ => (derives_unrolled_iff hρ).symm

end Knot

/-! ## Sessions -/

namespace Session

/-- Whatever the one session answers, the other answers, and both record the same. -/
def Covers (s t : Session) : Prop :=
  ∀ (input : List Char) (position : Nat) (step : Step) (s' : Session),
    s.invoke input position = some (step, s') →
    ∃ failures t', t.invoke input position = some (step, t') ∧
      s'.store.tracker = s.store.tracker.recordAll failures ∧
      t'.store.tracker = t.store.tracker.recordAll failures

theorem Sound.covers {rules rules' : Rules} {c c' : Closure} {s t : Session}
    (hs : s.Sound rules c) (ht : t.Sound rules' c')
    (h : ∀ (input : List Char) (position : Nat) (step : Step) (failures : List Failure),
      Derives rules input (.whole c) position step failures →
      Derives rules' input (.whole c') position step failures) : s.Covers t := by
  intro input position step s' hi
  obtain ⟨failures, hd, htr⟩ := hs.exists_derives hi
  obtain ⟨t', hi', htr'⟩ := ht.exists_invoke (h _ _ _ _ hd)
  exact ⟨failures, t', hi', htr, htr'⟩

/-- Where one way to tie the knot gives a parser, another gives one too, and however the two have
been used, each answers whatever the other answers. -/
theorem exists_start_of_equivalent {k : Knot} {d : Grammar} {options : ReaderOptions}
    {tracked : Bool} {s₀ : Session} {store : Store}
    (hstart : start (k.rules k.recursion) k.grammar options tracked = (.ok s₀, store))
    (hd : d = k.recursion ∨ d = k.deferral ∨ d = k.unrolled) (h : k.Equivalent k.recursion d) :
    ∃ t₀ store', start (k.rules d) k.grammar options tracked = (.ok t₀, store') ∧
      ∀ s t, Reaches s₀ s → Reaches t₀ t → s.Covers t ∧ t.Covers s := by
  have hfault := exists_start_iff.1 ⟨s₀, store, hstart⟩
  obtain ⟨t₀, store', hstart'⟩ :=
    exists_start_iff.2 ((Knot.fault_grammar hd).trans hfault)
  refine ⟨t₀, store', hstart', fun s t hs ht => ?_⟩
  have hs := (sound_start hstart).reaches hs
  have ht := (sound_start hstart').reaches ht
  exact ⟨hs.covers ht fun _ _ _ _ => (h _ _ _ _).1, ht.covers hs fun _ _ _ _ => (h _ _ _ _).2⟩

/-- A rule that is defined with a handle to itself, a function that builds the body around a
deferred call of itself, and the body around the rule give parsers that answer the same, whatever
each has been used for before. -/
theorem knots_agree (k : Knot) {options : ReaderOptions} {tracked : Bool} {s₀ : Session}
    {store : Store}
    (hstart : start (k.rules k.recursion) k.grammar options tracked = (.ok s₀, store)) :
    (∃ t₀ store', start (k.rules k.deferral) k.grammar options tracked = (.ok t₀, store') ∧
      ∀ s t, Reaches s₀ s → Reaches t₀ t → s.Covers t ∧ t.Covers s) ∧
    ∃ t₀ store', start (k.rules k.unrolled) k.grammar options tracked = (.ok t₀, store') ∧
      ∀ s t, Reaches s₀ s → Reaches t₀ t → s.Covers t ∧ t.Covers s := by
  have hfault := exists_start_iff.1 ⟨s₀, store, hstart⟩
  exact ⟨exists_start_of_equivalent hstart (.inr (.inl rfl)) (Knot.equivalent_deferral hfault),
    exists_start_of_equivalent hstart (.inr (.inr rfl)) Knot.equivalent_unrolled⟩

/-- A letter or a digit, or two of these or of such pairs in parentheses. -/
def paired : Knot where
  rule := "paired"
  name := "self"
  body := .choice [.sequence [.literal "(", .var "self", .var "self", .literal ")"],
    .rule "letter", .var "digit"]
  others := [("letter", .literal "x")]
  captured := [("digit", .charClass "0123456789" false)]
  exposed := true
  probed := false
  body_avoids := by simp [Grammar.Avoids, Grammar.Every, Grammar.EveryOne]
  others_avoid := by simp [Grammar.Avoids, Grammar.Every]
  captured_avoid := by simp [Grammar.Avoids, Grammar.Every]

/-- The three ways to define pairs, the first two after some use. -/
theorem knots_agree_paired :
    ∃ s₀ s t₀ t u₀,
      (start (paired.rules paired.recursion) paired.grammar {} true).1 = .ok s₀ ∧
      (start (paired.rules paired.deferral) paired.grammar {} true).1 = .ok t₀ ∧
      (start (paired.rules paired.unrolled) paired.grammar {} true).1 = .ok u₀ ∧
      Reaches s₀ s ∧ (∃ step, s₀.invoke "((x1)x)".toList 0 = some (step, s)) ∧
      Reaches t₀ t ∧ (∃ step, t₀.invoke "(x(1x))".toList 0 = some (step, t)) ∧
      (s.Covers t ∧ t.Covers s) ∧ s.Covers u₀ ∧ u₀.Covers s := by
  let built := paired.grammar.build (paired.rules paired.recursion) [] Store.empty
  let s₀ := settle ⟨some { parser := .rule 0, tracked := true }, built.2⟩ built.2
  have hs₀ : start (paired.rules paired.recursion) paired.grammar {} true = (.ok s₀, _) := rfl
  obtain ⟨⟨t₀, store, ht₀, ht⟩, u₀, store', hu₀, hu⟩ := knots_agree paired hs₀
  have hs : s₀.invoke "((x1)x)".toList 0 = some (_, _) := @invoke_of_run s₀ _ _ 0 20 _ _ rfl rfl
  obtain ⟨t, step, ht₁⟩ : ∃ t step, t₀.invoke "(x(1x))".toList 0 = some (step, t) := by
    cases ht₀
    exact ⟨_, _, @invoke_of_run _ _ _ _ 20 _ _ rfl rfl⟩
  have hs' : Reaches s₀ _ := .step .refl (.invoke hs)
  have ht' : Reaches t₀ t := .step .refl (.invoke ht₁)
  exact ⟨s₀, _, t₀, t, u₀, rfl, by rw [ht₀], by rw [hu₀], hs', ⟨_, hs⟩, ht', ⟨_, ht₁⟩,
    ht _ t hs' ht', hu _ u₀ hs' .refl⟩

end Session

end Descent
