import Descent.Proofs.Calc.Language
import Descent.Proofs.Meaning.Termination

/-!
# The calculator comes to an end

The grammar of the calculator has one recursive rule, whose handle stands behind a parenthesis: it
is not left-recursive (`always_not_leftRecursive_grammar`), so that it answers at every boundary of
every source.
-/

namespace Descent.Calc

open Closure

section
variable {options : CalcOptions} {rules : Rules} {d : Nat} {ρ : List (String × Closure)}

/-! ## Tokens -/

/-- What a token is made of mentions no name, with or without blanks. -/
theorem grounded_token {label : String} {token : Grammar}
    (h : token.Every fun g => g.isName = false) :
    Grounded rules ⟨.labelled label (lexeme options token), d, ρ⟩ := by
  have hlexeme : (lexeme options token).Every fun g => g.isName = false := by
    unfold lexeme
    split
    · have hblanks : blanks.Every fun g => g.isName = false := And.intro rfl rfl
      exact And.intro rfl (And.intro rfl ⟨h, hblanks, trivial⟩)
    · exact h
  exact grounded_of_every (.labelled label (lexeme options token)) (And.intro rfl hlexeme) d ρ

theorem grounded_number : Grounded rules ⟨number options, d, ρ⟩ :=
  grounded_token (And.intro rfl rfl)

theorem grounded_operator : Grounded rules ⟨operator options, d, ρ⟩ := grounded_token rfl

theorem grounded_opening : Grounded rules ⟨opening options, d, ρ⟩ := grounded_token rfl

theorem advances_opening : Advances rules ⟨opening options, d, ρ⟩ :=
  fun _ _ _ _ _ hm => Nat.ne_of_gt (stands_literal hm).lt

/-! ## Expressions -/

/-- An atom starts its expression only behind the parenthesis. -/
theorem grounded_atom : Grounded rules ⟨atom options, d, ρ⟩ := by
  have hgroup : Grounded rules
      ⟨.sequence [opening options, .var "expression", closing options], d, ρ⟩ :=
    grounded_of_advances rfl advances_opening grounded_opening
  refine grounded_of_parts rfl (List.forall_mem_cons.2 ⟨grounded_number, ?_⟩)
  refine List.forall_mem_singleton.2 (grounded_of_parts rfl ?_)
  exact List.forall_mem_singleton.2 hgroup

theorem grounded_expression : Grounded rules ⟨expression options, d, ρ⟩ := by
  refine grounded_of_means .recursive (grounded_of_means .bind ?_)
  have hatom : ∀ c ρ', Grounded rules c → Grounded rules ⟨.var "atom", d, ("atom", c) :: ρ'⟩ :=
    fun c ρ' h => grounded_of_means (.var rfl) h
  refine grounded_of_parts rfl (List.forall_mem_singleton.2 ?_)
  refine grounded_of_parts rfl (List.forall_mem_cons.2 ⟨hatom _ _ grounded_atom, ?_⟩)
  refine List.forall_mem_singleton.2 (grounded_of_parts rfl (List.forall_mem_singleton.2 ?_))
  exact grounded_of_parts rfl (List.forall_mem_cons.2
    ⟨grounded_operator, List.forall_mem_singleton.2 (hatom _ _ grounded_atom)⟩)

end

/-- The grammar leads to no left-recursive rule. -/
theorem always_not_leftRecursive_grammar (options : CalcOptions) :
    ((grammar options).closed []).Always [] fun c => ¬ c.LeftRecursive [] := by
  have hexpression : (grammar options).Every fun g => g.isRule = true → g = expression options := by
    obtain ⟨allowWhitespace⟩ := options
    cases allowWhitespace <;>
      simp [grammar, expression, atom, number, operator, opening, closing, lexeme, blanks,
        Grammar.Every, Grammar.EveryOne, Grammar.isRule]
  exact Every.always_not_leftRecursive (List.forall_mem_nil _)
    (.mk hexpression (List.forall_mem_nil _))
    fun _ _ => grounded_expression.not_leftRecursive fun _ => Grammar.noConfusion

theorem standard_grammar (options : CalcOptions) : (grammar options).standard = true := by
  obtain ⟨allowWhitespace⟩ := options
  cases allowWhitespace <;> rfl

end Descent.Calc

namespace Descent.Session

/-- Without left recursion, parsing terminates: a session of a grammar without custom parts that
leads to no left-recursive rule answers at every boundary of every input, however it has been used.
Such is the grammar of the calculator, with or without blanks. -/
theorem invoke_terminates :
    (∀ (rules : Rules) (grammar : Grammar) (options : ReaderOptions) (tracked : Bool)
      (s₀ s : Session) (store : Store), rules.Standard → grammar.standard = true →
      (grammar.closed rules).Always rules (fun c => ¬ c.LeftRecursive rules) →
      start rules grammar options tracked = (.ok s₀, store) → Reaches s₀ s →
      ∀ (input : List Char) (position : Nat), Text.isBoundary input position = true →
        ∃ step s', s.invoke input position = some (step, s')) ∧
    ∀ (calcOptions : Calc.CalcOptions) (options : ReaderOptions) (tracked : Bool),
      ∃ s₀ store, start [] (Calc.grammar calcOptions) options tracked = (.ok s₀, store) ∧
        ∀ s, Reaches s₀ s →
          ∀ (input : List Char) (position : Nat), Text.isBoundary input position = true →
            ∃ step s', s.invoke input position = some (step, s') := by
  constructor
  · intro rules grammar options tracked s₀ s store hrules hgrammar h hstart hreach input position hp
    exact exists_invoke_of_always hrules hgrammar h hstart hreach hp
  · intro calcOptions options tracked
    obtain ⟨s₀, store, hstart⟩ := exists_start_iff.2 (Calc.fault_grammar calcOptions)
    have hrules : Rules.Standard [] := List.forall_mem_nil _
    refine ⟨s₀, store, hstart, fun s hreach input position hp => ?_⟩
    exact exists_invoke_of_always hrules (Calc.standard_grammar calcOptions)
      (Calc.always_not_leftRecursive_grammar calcOptions) hstart hreach hp

/-- A letter in parentheses, or nothing again and again. -/
def deferring : Grammar :=
  .choice [.sequence [.literal "(", .deferred (.rule "deferring"), .literal ")"], .literal "x",
    .many (.literal "")]

/-- A rule that calls itself behind a parenthesis is not left-recursive. -/
theorem always_not_leftRecursive_deferring :
    ((Grammar.rule "deferring").closed [("deferring", deferring)]).Always [("deferring", deferring)]
      fun c => ¬ c.LeftRecursive [("deferring", deferring)] := by
  have hrules : ∀ a ∈ [("deferring", deferring)],
      a.2.Every fun g => g.isRule = true → g = .rule "deferring" := by
    simp [deferring, Grammar.Every, Grammar.EveryOne, Grammar.isRule]
  have hrule : (Grammar.rule "deferring").Every fun g => g.isRule = true → g = .rule "deferring" :=
    fun _ => rfl
  refine Closure.Every.always_not_leftRecursive hrules (.mk hrule (List.forall_mem_nil _))
    fun d ρ => ?_
  let group : Grammar := .sequence [.literal "(", .deferred (.rule "deferring"), .literal ")"]
  have hadvances : ∀ c : Closure, (c.inner (.literal "(")).Advances [("deferring", deferring)] := by
    intro c input position next v hp hm
    obtain ⟨rest, -, -, rfl⟩ := matches_literal_iff.1 hm
    have hlength : Text.byteLength "(".toList = 1 := rfl
    omega
  refine @Closure.not_leftRecursive_rule _
    (fun g => g = deferring ∨ g = group ∨ g = .many (.literal "") ∨ ∃ text, g = .literal text)
    "deferring" d ρ ?_ ?_ (by simp [deferring, group])
  · intro definition hl
    exact .inl (Option.some.inj hl).symm
  · rintro c c' (hg | hg | hg | ⟨text, hg⟩) hs
    · obtain ⟨g, hmem, rfl⟩ := hs.exists_part (by rw [hg]; rfl)
      rw [hg] at hmem
      simp only [deferring, Grammar.parts, List.mem_cons, List.not_mem_nil, or_false] at hmem
      obtain rfl | rfl | rfl := hmem
      · exact .inr (.inl rfl)
      · exact .inr (.inr (.inr ⟨_, rfl⟩))
      · exact .inr (.inr (.inl rfl))
    · rw [hs.eq_of_advances hg (hadvances c)]
      exact .inr (.inr (.inr ⟨_, rfl⟩))
    · obtain ⟨g, hmem, rfl⟩ := hs.exists_part (by rw [hg]; rfl)
      rw [hg] at hmem
      obtain rfl := List.mem_singleton.1 hmem
      exact .inr (.inr (.inr ⟨_, rfl⟩))
    · obtain ⟨g, hmem, rfl⟩ := hs.exists_part (by rw [hg]; rfl)
      rw [hg] at hmem
      cases hmem

/-- The rule answers in the middle of a text, after it has been used. -/
theorem invoke_terminates_deferring :
    let rules := [("deferring", deferring)]
    ∃ s₀ s, Rules.Standard rules ∧ (Grammar.rule "deferring").standard = true ∧
      (((Grammar.rule "deferring").closed rules).Always rules fun c => ¬ c.LeftRecursive rules) ∧
      (start rules (.rule "deferring") {} true).1 = .ok s₀ ∧ Reaches s₀ s ∧
      Text.isBoundary "é((x)".toList 2 = true ∧
      ∃ step s', s.invoke "é((x)".toList 2 = some (step, s') := by
  intro rules
  have hrules : Rules.Standard rules := List.forall_mem_singleton.2 rfl
  obtain ⟨s₀, store, hstart⟩ :
      ∃ s₀ store, start rules (.rule "deferring") {} true = (.ok s₀, store) := ⟨_, _, rfl⟩
  have ends := fun s hreach => invoke_terminates.1 rules (.rule "deferring") {} true s₀ s store
    hrules rfl always_not_leftRecursive_deferring hstart hreach
  obtain ⟨step, s, hs⟩ := ends s₀ .refl "((x))".toList 0 rfl
  have hreach : Reaches s₀ s := .step .refl (.invoke hs)
  exact ⟨s₀, s, hrules, rfl, always_not_leftRecursive_deferring, by rw [hstart], hreach, rfl,
    ends s hreach _ 2 rfl⟩

end Descent.Session
