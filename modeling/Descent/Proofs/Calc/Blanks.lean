import Descent.Proofs.Calc.Longest

/-!
# Allowing blanks

In a source without blanks, the calculator that allows them reads the same as the one that does not.
The tokens that stand at its positions are the same (`TokenAt.congr`), so either both grammars match
up to one position with one tree, or both come to the same impasse (`grammars_agree`), and the
calculators answer the same (`Calculator.allowWhitespace_conservative`).
-/

namespace Descent.Calc

/-- No blanks are in the text. -/
def Unspaced (text : List Char) : Prop := ∀ c ∈ text, ¬ Blank c

section
variable {options options' : CalcOptions} {input text gap token : List Char}
  {position next last next' last' : Nat} {tokens tokens' : List (List Char)} {need need' : Need}
  {failures failures' : List Failure} {v v' : Value}

/-! ## Tokens -/

theorem Unspaced.gap_eq_nil (h : Unspaced input) (hg : Gap options gap) (hm : gap <:+: input) :
    gap = [] :=
  List.eq_nil_iff_forall_not_mem.2 fun c hc => h c (hm.mem hc) (hg c hc).2

/-- A token stands in a text without blanks, whether or not they are allowed. -/
theorem TokenAt.congr (h : Unspaced input) (ht : TokenAt options input position token next) :
    TokenAt options' input position token next := by
  obtain ⟨gap, rest, ⟨front, rfl, rfl⟩, hl, hg, -, rfl⟩ := ht
  have hsettled : Settled options' rest := by
    intro c hc _
    exact h c (by simp [List.mem_of_mem_head? hc])
  obtain rfl := h.gap_eq_nil hg ⟨front ++ token, rest, by simp⟩
  exact ⟨[], rest, ⟨front, rfl, rfl⟩, hl, (fun _ hc => nomatch hc), hsettled, rfl⟩

theorem Scans.congr (h : Unspaced input) (hs : Scans options input position tokens last) :
    Scans options' input position tokens last := by
  induction hs with
  | nil => exact .nil
  | cons ht _ ih => exact .cons (ht.congr h) ih

theorem StartsAt.eq_zero_of_unspaced (h : Unspaced input) (hs : StartsAt options input position) :
    position = 0 := by
  obtain ⟨gap, rest, rfl, hg, -, rfl⟩ := hs
  rw [h.gap_eq_nil hg ⟨[], rest, rfl⟩]
  rfl

/-! ## Trees -/

/-- What an expression matches in a text without blanks is the text of its tree. -/
theorem exists_render_of_matches (h : Unspaced input)
    (hm : Matches [] input (expressionMeaning options) position v next) :
    ∃ (e : Expr) (rest : List Char), v = e.toValue ∧ e.InRange ∧
      Text.At input position (e.render ++ rest) ∧
      next = position + Text.byteLength e.render := by
  obtain ⟨e, rfl, hr, text, rest, hat, ht, rfl⟩ := reads_of_matches hm
  obtain ⟨front, rfl, rfl⟩ := hat
  have htext := ht.eq_flatten fun gap hm hg =>
    h.gap_eq_nil hg (hm.trans (List.infix_append' front text rest))
  rw [e.flatten_tokens] at htext
  subst htext
  exact ⟨e, rest, rfl, hr, ⟨front, rfl, rfl⟩, rfl⟩

/-- Expressions that match up to one position have one tree. -/
theorem exists_tree_of_matches (h : Unspaced input)
    (hm : Matches [] input (expressionMeaning options) 0 v next)
    (hm' : Matches [] input (expressionMeaning options') 0 v' next) :
    ∃ e : Expr, v = e.toValue ∧ v' = e.toValue := by
  obtain ⟨e, rest, rfl, hr, hat, rfl⟩ := exists_render_of_matches h hm
  obtain ⟨e', rest', rfl, hr', hat', hlength⟩ := exists_render_of_matches h hm'
  have hrender : e.render = e'.render := by
    refine prefix_eq_of_byteLength ⟨rest, hat.unique (.start input)⟩
      ⟨rest', hat'.unique (.start input)⟩ ?_
    simpa using hlength
  have hwrites : Writes {} e e.render := rfl
  obtain rfl : e = e' := tree_unique hr hr' hwrites hrender
  exact ⟨e, rfl, rfl⟩

/-- Impasses that are reached from one position are one. -/
theorem Impasse.unique (h : Unspaced input)
    (hi : Impasse options input position failures tokens need last)
    (hi' : Impasse options' input position failures' tokens' need' last') :
    last = last' ∧ need = need' := by
  obtain ⟨more, hmore, hs⟩ := hi.longest (hi'.scans.congr h) hi'.takes
  obtain ⟨more', rfl, hs'⟩ := hi'.longest (hi.scans.congr h) hi.takes
  obtain rfl : more' = [] := by
    rw [List.append_assoc] at hmore
    exact (List.append_eq_nil_iff.1 (List.self_eq_append_right.1 hmore)).1
  cases hs'
  rw [List.append_nil] at hi'
  exact ⟨rfl, hi.takes.unique hi'.takes⟩

/-- Without blanks, the grammars match with one tree up to one position, or neither matches and the
farthest failure is one. -/
theorem grammars_agree (options options' : CalcOptions) (h : Unspaced input) :
    (∃ (e : Expr) (next : Nat) (failures failures' : List Failure),
      Derives [] input (.whole ⟨grammar options, 0, []⟩) 0 (.ok (.success e.toValue next))
        failures ∧
      Derives [] input (.whole ⟨grammar options', 0, []⟩) 0 (.ok (.success e.toValue next))
        failures') ∨
    ∃ failures failures' : List Failure,
      Task.Misses [] input (.whole ⟨grammar options, 0, []⟩) 0 failures ∧
      Task.Misses [] input (.whole ⟨grammar options', 0, []⟩) 0 failures' ∧
      Failure.farthest? failures = Failure.farthest? failures' := by
  obtain ⟨start, rest, hstart, hat⟩ := exists_startsAt options input
  obtain ⟨start', rest', hstart', hat'⟩ := exists_startsAt options' input
  obtain rfl := hstart.eq_zero_of_unspaced h
  obtain rfl := hstart'.eq_zero_of_unspaced h
  cases expressionOutcome options hat with
  | reads hd hs ht he =>
    cases expressionOutcome options' hat' with
    | reads hd' hs' ht' he' =>
      -- Neither goes on beyond the other.
      obtain rfl := Nat.le_antisymm (he'.le hs' ht' (hs.congr h) ht) (he.le hs ht (hs'.congr h) ht')
      obtain ⟨e, rfl, rfl⟩ := exists_tree_of_matches h ⟨_, hd⟩ ⟨_, hd'⟩
      exact .inl ⟨e, _, _, _, derives_grammar hstart hd, derives_grammar hstart' hd'⟩
    | stuck _ hstuck =>
      -- The tokens that one reads lead the other past its impasse.
      exact absurd ht (hstuck.not_scans (hs.congr h))
  | stuck hmiss hstuck =>
    cases expressionOutcome options' hat' with
    | reads _ hs' ht' _ => exact absurd ht' (hstuck.not_scans (hs'.congr h))
    | stuck hmiss' hstuck' =>
      obtain ⟨tokens, need, last, hi⟩ := hstuck
      obtain ⟨tokens', need', last', hi'⟩ := hstuck'
      obtain ⟨rfl, rfl⟩ := hi.unique h hi'
      exact .inr ⟨_, _, misses_grammar hstart hmiss, misses_grammar hstart' hmiss',
        hi.farthest.trans hi'.farthest.symm⟩

end

/-! ## Calculators -/

namespace Calculator

/-- What a calculator answers where its grammar does not match. -/
theorem parse_eq_noMatch {calculator : Calculator} {rules : Rules} {L : Legend} {c : Closure}
    {source : List Char} {failures : List Failure}
    (hb : Built rules L [] calculator.reader.parser c) (hs : Sound rules [] L calculator.store)
    (htracked : calculator.reader.tracked = true)
    (h : Task.Misses rules source (.whole c) 0 failures) :
    calculator.parse source =
      some (.error (.parse (.noMatch (Failure.farthest? failures)))) := by
  obtain ⟨o, hd, ho⟩ := h
  refine parse_eq_error_iff.2 ((Reader.parse_iff hb hs).2 ⟨_, failures, hd, ?_⟩)
  rw [Step.prefixAnswer_of_not_matched ho, Reader.told, if_pos htracked,
    Tracker.farthest?_recordAll]
  rfl

/-- Whether or not blanks are allowed makes no difference to a source without blanks, however the
two calculators have been used before: they answer with the same tree and the same value, or with
the same error. -/
theorem allowWhitespace_conservative (readerOptions : ReaderOptions) :
    ∃ strict₀ lenient₀, new { allowWhitespace := false } readerOptions = .ok strict₀ ∧
      new { allowWhitespace := true } readerOptions = .ok lenient₀ ∧
      ∀ strict lenient, Reaches strict₀ strict → Reaches lenient₀ lenient →
        ∀ source : List Char, (∀ c ∈ source, ¬ Blank c) →
          ∃ answer value, strict.parse source = some answer ∧ lenient.parse source = some answer ∧
            strict.evaluate source = some value ∧ lenient.evaluate source = some value := by
  obtain ⟨strict₀, L, hnew, ho, hb, hs⟩ := exists_new { allowWhitespace := false } readerOptions
  obtain ⟨lenient₀, L', hnew', ho', hb', hs'⟩ :=
    exists_new { allowWhitespace := true } readerOptions
  refine ⟨strict₀, lenient₀, hnew, hnew', fun strict lenient hreach hreach' source h => ?_⟩
  obtain ⟨hr, M, hbuilt, hsound⟩ := hreach.exists_sound hb hs
  obtain ⟨hr', M', hbuilt', hsound'⟩ := hreach'.exists_sound hb' hs'
  have hparse : ∃ answer, strict.parse source = some answer ∧
      lenient.parse source = some answer := by
    rcases grammars_agree { allowWhitespace := false } { allowWhitespace := true } h with
      ⟨e, next, failures, failures', hd, hd'⟩ | ⟨failures, failures', hmiss, hmiss', hfarthest⟩
    · refine ⟨_, parse_eq_answer hbuilt hsound hd, ?_⟩
      rw [parse_eq_answer hbuilt' hsound' hd', hr, hr', ho, ho']
    · refine ⟨_, parse_eq_noMatch hbuilt hsound (by rw [hr, tracked_of_new hnew]) hmiss, ?_⟩
      rw [parse_eq_noMatch hbuilt' hsound' (by rw [hr', tracked_of_new hnew']) hmiss', hfarthest]
  obtain ⟨answer, hanswer, hanswer'⟩ := hparse
  have hvalue : ∃ value, strict.evaluate source = some value ∧
      lenient.evaluate source = some value := by
    unfold evaluate
    rw [hanswer, hanswer']
    cases answer with
    | error error => exact ⟨_, rfl, rfl⟩
    | ok e => exact ⟨_, rfl, rfl⟩
  obtain ⟨value, hv, hv'⟩ := hvalue
  exact ⟨answer, value, hanswer, hanswer', hv, hv'⟩

/-- A parenthesis that is not closed, without blanks. -/
theorem allowWhitespace_conservative_unclosed :
    ∃ strict lenient error, new { allowWhitespace := false } {} = .ok strict ∧
      new { allowWhitespace := true } {} = .ok lenient ∧
      error = CalcError.parse (.noMatch (some ⟨4, ["operator", "')'"]⟩)) ∧
      strict.parse "(1+2".toList = some (.error error) ∧
      lenient.parse "(1+2".toList = some (.error error) ∧
      lenient.evaluate "(1+2".toList = strict.evaluate "(1+2".toList := by
  obtain ⟨strict, lenient, hnew, hnew', h⟩ := allowWhitespace_conservative {}
  have hrun : ((new { allowWhitespace := false } {}).toOption.bind fun calculator =>
      (Parser.run "(1+2".toList 40 calculator.reader.parser 0
        (calculator.reader.fresh calculator.store)).map fun result =>
          (result.1.toOption.map Outcome.matched, result.2.tracker.farthest?)) =
      some (some false, some ⟨4, ["operator", "')'"]⟩) := by decide +kernel
  have hparse := parse_eq_noMatch_of_new_run hnew hrun
  have hsource : ∀ c ∈ "(1+2".toList, ¬ Blank c := by simp [Blank]
  obtain ⟨answer, value, hanswer, hanswer', hvalue, hvalue'⟩ :=
    h strict lenient .refl .refl _ hsource
  rw [← hanswer, hparse] at hanswer'
  exact ⟨strict, lenient, _, hnew, hnew', rfl, hparse, hanswer', hvalue'.trans hvalue.symm⟩

end Calculator

end Descent.Calc
