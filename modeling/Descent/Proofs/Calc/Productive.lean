import Descent.Proofs.Calc.Termination
import Descent.Proofs.Meaning.Names
import Descent.Proofs.Meaning.Nullable
import Descent.Proofs.Trace.Equations
import Descent.Proofs.Trace.Errors

/-!
# The calculator never stalls

The static check of `Closure.Nullable` for a whole grammar: where no repetition is of a nullable
body, no invocation on the way comes to a stall (`Invocation.Flowing`). The calculator repeats blanks,
and an operator with an atom behind it; neither is nullable. Its names are bound and it has no custom
parts, so that no error of the grammar is left that it could raise.
-/

namespace Descent

/-! ## Invocations that do not stall -/

/-- No invocation that comes to be made answers that a repetition has stalled; a repetition matches,
or answers another error. -/
structure Invocation.Flowing (input : List Char) (i : Invocation) : Prop where
  not_stalled (j : Invocation) (n : Nat) (t : Store) : Relation.ReflTransGen (Makes input) i j →
    j.result input ≠ some (.error (.zeroWidthRepetition n), t)
  many (j : Invocation) (body : Parser) (step : Step) (t : Store) :
    Relation.ReflTransGen (Makes input) i j → j.parser = .many body →
    j.result input = some (step, t) →
    (∃ vs next, step = .ok (.success (.arr vs) next)) ∨
      ∃ error, step = .error error ∧ ∀ n, error ≠ .zeroWidthRepetition n

/-- Errors are handed up, so that it is enough that the invocation itself answers no stall. -/
theorem Invocation.flowing_of_result {input : List Char} {i : Invocation}
    (h : ∀ n t, i.result input ≠ some (.error (.zeroWidthRepetition n), t)) : i.Flowing input := by
  have hn : ∀ (j : Invocation) (n : Nat) (t : Store), Relation.ReflTransGen (Makes input) i j →
      j.result input ≠ some (.error (.zeroWidthRepetition n), t) :=
    fun j n t hj hr => h n t (result_eq_error_of_makes hj hr)
  refine ⟨hn, fun j body step t hj hp hr => ?_⟩
  cases step with
  | error error => exact .inr ⟨error, rfl, fun n he => hn j n t hj (he ▸ hr)⟩
  | ok o =>
    rw [result, hp] at hr
    obtain ⟨vs, next, rfl⟩ := Parser.exists_of_invoke_many hr
    exact .inl ⟨vs, next, rfl⟩

/-! ## The calculator -/

namespace Calc

open Closure

section
variable {options : CalcOptions} {rules : Rules} {d : Nat} {ρ : List (String × Closure)}

theorem not_nullable_operator : ¬ Nullable rules ⟨operator options, d, ρ⟩ := by
  rw [operator, nullable_labelled_iff]
  unfold lexeme
  split
  · rw [nullable_transform_iff, nullable_sequence_iff]
    exact fun h => not_nullable_charClass (h _ List.mem_cons_self)
  · exact not_nullable_charClass

end

/-- What the grammar repeats is a blank, or an operator with an atom behind it. -/
theorem always_productive_grammar (options : CalcOptions) :
    ((grammar options).closed []).Always [] (Productive []) := by
  have hmany : (grammar options).Every fun g => ∀ body, g = .many body →
      body = .charClass blankCharacters false ∨
        body = .sequence [operator options, .var "atom"] := by
    obtain ⟨allowWhitespace⟩ := options
    cases allowWhitespace <;>
      simp [grammar, expression, atom, number, operator, opening, closing, lexeme, blanks,
        Grammar.Every, Grammar.EveryOne]
  intro c hc g hg
  obtain rfl | rfl := hmany.always (List.forall_mem_nil _) c hc g hg
  · exact not_nullable_charClass
  · show ¬ Nullable [] ⟨.sequence [operator options, .var "atom"], c.depth, c.scope⟩
    rw [nullable_sequence_iff]
    exact fun h => not_nullable_operator (h _ List.mem_cons_self)

/-- Nothing that the grammar leads to raises an error. -/
theorem not_raises_grammar (options : CalcOptions) (input : List Char) (error : GrammarError) :
    ((grammar options).closed []).Always [] fun c => ¬ c.Raises [] input error := by
  have hdeferred : (grammar options).Every fun g => ∀ body, g ≠ .deferred body := by
    obtain ⟨allowWhitespace⟩ := options
    cases allowWhitespace <;>
      simp [grammar, expression, atom, number, operator, opening, closing, lexeme, blanks,
        Grammar.Every, Grammar.EveryOne]
  have hcontained : ((grammar options).closed []).SelfContained := by
    obtain ⟨allowWhitespace⟩ := options
    cases allowWhitespace <;> exact .mk rfl (List.forall_mem_nil _)
  have hrules : Rules.Standard [] := List.forall_mem_nil _
  have hstandard : ((grammar options).closed []).Standard :=
    .mk (standard_grammar options) (List.forall_mem_nil _)
  intro c hc hr
  have hlinked := hcontained.always_linked c hc
  have hcustom := (hstandard.always hrules c hc).grammar
  cases hr with
  | dangles hd =>
    cases hd with
    | var hl => exact hlinked.bound (.var hl)
    | rule hl => exact hlinked.bound (.rule hl)
    | deferred _ => exact hdeferred.always (List.forall_mem_nil _) _ hc _ rfl
  | custom hg _ =>
    rw [hg] at hcustom
    cases hcustom
  | @stalls g _ _ hg hm =>
    have hbody : (c.inner g).Standard :=
      (hstandard.always hrules c hc).calls hrules (.part (by simp [hg, Grammar.parts]))
    exact hbody.next_ne hrules (always_productive_grammar options c hc g hg) hm rfl

end Calc

/-! ## The main theorem -/

namespace Session

/-- A static check of nullability rules out stalls. In a grammar without custom parts, what is not
nullable matches no empty text, nor does a session of such a grammar, however it has been used. If no
repetition is of a nullable body, no invocation on the way comes to a stall. The calculator passes
the check, with or without blanks, and raises no error at all. -/
theorem nullability_rules_out_stalls :
    (∀ (rules : Rules) (grammar : Grammar) (options : ReaderOptions) (tracked : Bool)
      (s₀ s : Session) (store : Store), rules.Standard → grammar.standard = true →
      start rules grammar options tracked = (.ok s₀, store) → Reaches s₀ s →
      (∀ c, (grammar.closed rules).Leads rules c → ¬ c.Nullable rules →
        ∀ (input : List Char) (position next : Nat) (v : Value),
          Matches rules input c position v next → next ≠ position) ∧
      (¬ (grammar.closed rules).Nullable rules →
        ∀ (input : List Char) (position next : Nat) (v : Value) (s' : Session),
          s.invoke input position = some (.ok (.success v next), s') → next ≠ position) ∧
      ((grammar.closed rules).Always rules (Closure.Productive rules) →
        ∀ reader, s.reader? = some reader → ∀ (input : List Char) (position : Nat),
          Invocation.Flowing input ⟨reader.parser, position, s.store⟩)) ∧
    ∀ (calcOptions : Calc.CalcOptions) (options : ReaderOptions) (tracked : Bool),
      ∃ s₀ store, start [] (Calc.grammar calcOptions) options tracked = (.ok s₀, store) ∧
        ∀ s, Reaches s₀ s → ∀ (input : List Char) (position : Nat),
          (∀ error s', s.invoke input position ≠ some (.error error, s')) ∧
          (Text.isBoundary input position = true →
            ∃ o s', s.invoke input position = some (.ok o, s')) := by
  constructor
  · intro rules grammar options tracked s₀ s store hrules hgrammar hstart hreach
    have hc : (grammar.closed rules).Standard := .mk hgrammar (List.forall_mem_nil _)
    have hs := (sound_start hstart).reaches hreach
    refine ⟨fun c hl hn input position next v hm => ?_, fun hn input position next v s' hi => ?_,
      fun hp reader hr input position => ?_⟩
    · exact (hc.always hrules c hl).next_ne hrules hn hm
    · obtain ⟨failures, hd, -⟩ := hs.exists_derives hi
      exact hc.next_ne hrules hn ⟨failures, hd⟩
    · refine Invocation.flowing_of_result fun n t hres => ?_
      have hi : s.invoke input position =
          some (.error (.zeroWidthRepetition n), s.settle t) := by
        simp only [Session.invoke, Session.use, hr, Option.map_eq_some_iff]
        exact ⟨_, hres, rfl⟩
      obtain ⟨failures, hd, -⟩ := hs.exists_derives hi
      exact hc.not_stalled hrules hp hd
  · intro calcOptions options tracked
    obtain ⟨s₀, store, hstart⟩ := exists_start_iff.2 (Calc.fault_grammar calcOptions)
    refine ⟨s₀, store, hstart, fun s hreach input position => ?_⟩
    have hs := (sound_start hstart).reaches hreach
    have herror : ∀ error s', s.invoke input position ≠ some (.error error, s') := by
      intro error s' hi
      obtain ⟨failures, hd, -⟩ := hs.exists_derives hi
      exact (Calc.not_raises_grammar calcOptions input error).not_blames hd.blames
    refine ⟨herror, fun hb => ?_⟩
    obtain ⟨step, s', hi⟩ := exists_invoke_of_always (List.forall_mem_nil _)
      (Calc.standard_grammar calcOptions) (Calc.always_not_leftRecursive_grammar calcOptions) hstart
      hreach hb
    cases step with
    | error error => exact absurd hi (herror error s')
    | ok o => exact ⟨o, s', hi⟩

/-- Letters and lists of them in parentheses. -/
def lists : Grammar :=
  .choice [.sequence [.literal "(", .many (.deferred (.rule "lists")), .literal ")"], .literal "x"]

theorem not_nullable_lists {d : Nat} {ρ : List (String × Closure)} :
    ¬ Closure.Nullable [("lists", lists)] ⟨.rule "lists", d + 1, ρ⟩ := by
  rw [Closure.nullable_means_iff (.rule rfl), lists, Closure.nullable_choice_iff]
  rintro ⟨g, hg, hn⟩
  obtain rfl | rfl := by simpa using hg
  · have hopening := Closure.nullable_sequence_iff.1 hn _ List.mem_cons_self
    exact absurd (Closure.nullable_literal_iff.1 hopening) (by decide)
  · exact absurd (Closure.nullable_literal_iff.1 hn) (by decide)

/-- The rule repeats itself only, and a list takes its parentheses at least. -/
theorem always_productive_lists :
    ((Grammar.rule "lists").closed [("lists", lists)]).Always [("lists", lists)]
      (Closure.Productive [("lists", lists)]) := by
  have hmany : ∀ a ∈ [("lists", lists)],
      a.2.Every fun g => ∀ body, g = .many body → body = .deferred (.rule "lists") := by
    simp [lists, Grammar.Every, Grammar.EveryOne]
  have hrule : (Grammar.rule "lists").Every
      fun g => ∀ body, g = .many body → body = .deferred (.rule "lists") :=
    fun _ => Grammar.noConfusion
  intro c hc g hg
  obtain rfl := hrule.always hmany c hc g hg
  show ¬ Closure.Nullable _ ⟨.deferred (.rule "lists"), c.depth, c.scope⟩
  rw [Closure.nullable_means_iff (.deferred rfl)]
  exact not_nullable_lists

/-- The rule after it has been used; and the calculator, on a source that is no expression. -/
theorem nullability_rules_out_stalls_lists :
    let rules := [("lists", lists)]
    ∃ s₀ s reader, Rules.Standard rules ∧ (Grammar.rule "lists").standard = true ∧
      (start rules (.rule "lists") {} true).1 = .ok s₀ ∧ Reaches s₀ s ∧
      ¬ ((Grammar.rule "lists").closed rules).Nullable rules ∧
      ((Grammar.rule "lists").closed rules).Always rules (Closure.Productive rules) ∧
      s.reader? = some reader ∧
      (∀ next v s', s.invoke "(x(x))".toList 1 = some (.ok (.success v next), s') → next ≠ 1) ∧
      Invocation.Flowing "(x(x)".toList ⟨reader.parser, 0, s.store⟩ ∧
      ∃ calculator store, start [] (Calc.grammar { allowWhitespace := true }) {} false =
          (.ok calculator, store) ∧
        ∃ o s', calculator.invoke " 1 + ".toList 0 = some (.ok o, s') := by
  intro rules
  have hrules : Rules.Standard rules := List.forall_mem_singleton.2 rfl
  obtain ⟨s₀, store, hstart⟩ :
      ∃ s₀ store, start rules (.rule "lists") {} true = (.ok s₀, store) := ⟨_, _, rfl⟩
  have hreach : Reaches s₀ (s₀.record 3 "letter") := .step .refl (.record 3 "letter")
  obtain ⟨reader, L, hr, -⟩ := (sound_start hstart).reaches hreach
  obtain ⟨-, hadvances, hflows⟩ := nullability_rules_out_stalls.1 rules (.rule "lists") {} true s₀ _
    store hrules rfl hstart hreach
  obtain ⟨calculator, store', hstart', hcalc⟩ :=
    nullability_rules_out_stalls.2 { allowWhitespace := true } {} false
  exact ⟨s₀, _, reader, hrules, rfl, by rw [hstart], hreach, not_nullable_lists,
    always_productive_lists, hr, hadvances not_nullable_lists _ 1,
    hflows always_productive_lists reader hr _ 0, calculator, store', hstart',
    (hcalc calculator .refl " 1 + ".toList 0).2 rfl⟩

end Session

end Descent
