import Descent.Proofs.Calc.Impasse
import Descent.Proofs.Meaning.Unique

/-!
# The first offending token

Where a source does not match, the calculator points behind the longest run of tokens that is the
beginning of an expression (`LongestRun`), and tells what was expected there: an operator or a
closing parenthesis behind a number or a closing parenthesis, else a number or an opening one
(`Calculator.noMatch_points_behind_longest_run`).
-/

namespace Descent.Calc

open Need

/-! ## Runs of tokens -/

/-- The first token may stand there: all blanks before it are skipped, where they are allowed. -/
def StartsAt (options : CalcOptions) (source : List Char) (start : Nat) : Prop :=
  ∃ gap rest, source = gap ++ rest ∧ Gap options gap ∧ Settled options rest ∧
    start = Text.byteLength gap

/-- The tokens are the beginning of an expression. -/
def Begins (tokens : List (List Char)) : Prop :=
  ∃ e : Expr, e.InRange ∧ tokens <+: e.tokens

/-- Of all runs of tokens from the start on that are the beginning of an expression, this is the
longest. -/
structure LongestRun (options : CalcOptions) (source : List Char) (start : Nat)
    (tokens : List (List Char)) (last : Nat) : Prop where
  scans : Scans options source start tokens last
  begins : Begins tokens
  longest : ∀ tokens' last', Scans options source start tokens' last' → Begins tokens' →
    tokens' <+: tokens ∧ last' ≤ last

/-- The labels of what may come after tokens that are the beginning of an expression, but not
all of it. -/
def expectedAfter (tokens : List (List Char)) : List String :=
  match tokens.getLast? with
  | none => ["number", "'('"]
  | some token =>
    if token = ['('] ∨ token = ['+'] ∨ token = ['-'] then ["number", "'('"]
    else ["operator", "')'"]

section
variable {options : CalcOptions} {source text : List Char} {start next last : Nat} {v : Value}
  {failures : List Failure} {tokens : List (List Char)} {need need' : Need} {token : List Char}

theorem exists_startsAt (options : CalcOptions) (source : List Char) :
    ∃ start rest, StartsAt options source start ∧ Text.At source start rest := by
  obtain ⟨gap, rest, rfl, hg, hr⟩ := exists_gap options source
  exact ⟨_, rest, ⟨gap, rest, rfl, hg, hr, rfl⟩, gap, rfl, rfl⟩

theorem StartsAt.unique {start' : Nat} (h : StartsAt options source start)
    (h' : StartsAt options source start') : start = start' := by
  obtain ⟨gap, rest, rfl, hg, hr, rfl⟩ := h
  obtain ⟨gap', rest', htext, hg', hr', rfl⟩ := h'
  rw [gap_unique htext hg hr hg' hr']

theorem Need.Takes.labels (h : need.Takes token need') (hne : need' ≠ .operator 0) :
    need'.labels = if token = ['('] ∨ token = ['+'] ∨ token = ['-'] then ["number", "'('"]
      else ["operator", "')'"] := by
  have hoperator : ∀ d, Need.operator d ≠ .operator 0 →
      (Need.operator d).labels = ["operator", "')'"] := by
    intro d hd
    cases d with
    | zero => exact absurd rfl hd
    | succ d => rfl
  cases h with
  | @number d n _ =>
    have hdigit : ∀ {c : Char}, c.isDigit = false → Text.digits n ≠ [c] := digits_ne_singleton
    rw [hoperator d hne, if_neg]
    rintro (h | h | h)
    · exact hdigit rfl h
    · exact hdigit rfl h
    · exact hdigit rfl h
  | opening => simp [Need.labels]
  | operator op => cases op <;> simp [Need.labels, Operator.symbol]
  | closing =>
    rw [hoperator _ hne, if_neg]
    decide

/-- What is wanted shows in the last token. -/
theorem labels_eq_expectedAfter (h : TakesAll (.atom 0) tokens need) (hne : need ≠ .operator 0) :
    need.labels = expectedAfter tokens := by
  rcases List.eq_nil_or_concat tokens with rfl | ⟨front, token, rfl⟩
  · obtain rfl := takesAll_nil_iff.1 h
    rfl
  · rw [List.concat_eq_append] at h ⊢
    obtain ⟨mid, -, htoken⟩ := takesAll_append_iff.1 h
    obtain ⟨need', htakes, hnil⟩ := takesAll_cons_iff.1 htoken
    obtain rfl := takesAll_nil_iff.1 hnil
    rw [htakes.labels hne, expectedAfter, List.getLast?_append]
    rfl

/-- An impasse is behind the longest run. -/
theorem Impasse.longestRun (h : Impasse options source start failures tokens need last) :
    LongestRun options source start tokens last where
  scans := h.scans
  begins := exists_takesAll_iff.1 ⟨need, h.takes⟩
  longest := by
    intro tokens' last' hs hb
    obtain ⟨need', ht⟩ := exists_takesAll_iff.2 hb
    obtain ⟨more, rfl, hmore⟩ := h.longest hs ht
    exact ⟨List.prefix_append _ _, hmore.le⟩

/-! ## The grammar at the start of a source -/

/-- The blanks in front are skipped, and nothing is recorded. -/
theorem derives_blanks (ho : options.allowWhitespace = true) (hs : StartsAt options source start) :
    ∃ w, Derives [] source (.whole ⟨blanks, 0, []⟩) 0 (.ok (.success w start)) [] := by
  obtain ⟨gap, rest, rfl, hg, hr, rfl⟩ := hs
  obtain ⟨ws, hi⟩ := exists_iterates_of_gap (Text.At.start _) (fun c hc => (hg c hc).2)
    (fun c hc => hr c hc ho)
  have hmatch : Matches [] (gap ++ rest) ⟨blanks, 0, []⟩ 0 (.arr ws) _ :=
    matches_many_iff.2 ⟨ws, rfl, hi⟩
  rw [Nat.zero_add] at hmatch
  obtain ⟨failures, hd⟩ := hmatch
  have hsilent : blanks.Silent := ⟨⟨rfl, rfl⟩, rfl, rfl⟩
  obtain rfl := hd.failures_eq_nil (List.forall_mem_singleton.2 hsilent)
  exact ⟨_, hd⟩

theorem StartsAt.eq_zero (hs : StartsAt options source start)
    (ho : options.allowWhitespace = false) : start = 0 := by
  obtain ⟨gap, rest, rfl, hg, -, rfl⟩ := hs
  cases gap with
  | nil => rfl
  | cons c gap =>
    have := (hg c List.mem_cons_self).1
    simp [ho] at this

theorem derives_grammar (hs : StartsAt options source start)
    (h : Derives [] source (.whole (expressionMeaning options)) start (.ok (.success v next))
      failures) :
    Derives [] source (.whole ⟨grammar options, 0, []⟩) 0 (.ok (.success v next)) failures := by
  unfold grammar
  split
  · rename_i ho
    obtain ⟨w, hb⟩ := derives_blanks ho hs
    have hparts := Derives.parts_cons hb (.parts_cons h .parts_nil)
    rw [List.append_nil] at hparts
    have hsequence : Derives [] source
        (.whole ⟨.sequence [blanks, expression options], 0, []⟩) 0 _ _ := .sequence rfl hparts
    exact Derives.reshapes (c := ⟨.transform (Value.item 1) _, 0, []⟩) .transform_match hsequence
  · rename_i ho
    obtain rfl := hs.eq_zero (Bool.not_eq_true _ ▸ ho)
    exact h

theorem misses_grammar (hs : StartsAt options source start)
    (h : Task.Misses [] source (.whole (expressionMeaning options)) start failures) :
    Task.Misses [] source (.whole ⟨grammar options, 0, []⟩) 0 failures := by
  unfold grammar
  split
  · rename_i ho
    obtain ⟨w, hb⟩ := derives_blanks ho hs
    exact .transform (.sequence (.parts_next hb (.parts_here h)))
  · rename_i ho
    obtain rfl := hs.eq_zero (Bool.not_eq_true _ ▸ ho)
    exact h

end

/-! ## Calculators -/

namespace Calculator

theorem tracked_of_new {options : CalcOptions} {readerOptions : ReaderOptions}
    {calculator : Calculator} (h : new options readerOptions = .ok calculator) :
    calculator.reader.tracked = true := by
  unfold new at h
  split at h <;> cases h
  rfl

theorem parse_eq_error_iff {calculator : Calculator} {source : List Char} {error : ParseError} :
    calculator.parse source = some (.error (.parse error)) ↔
      ∃ store, calculator.reader.parse source calculator.store = some (.error error, store) := by
  unfold parse
  split <;> rename_i h <;> simp [h]

/-- Where a source does not match, the calculator points behind the longest run of tokens that is
the beginning of an expression, however it has been used before, and tells what was expected
there. -/
theorem noMatch_points_behind_longest_run (options : CalcOptions) (readerOptions : ReaderOptions) :
    ∃ calculator₀, new options readerOptions = .ok calculator₀ ∧
      ∀ calculator, Reaches calculator₀ calculator → ∀ (source : List Char)
        (farthest? : Option Farthest),
        calculator.parse source = some (.error (.parse (.noMatch farthest?))) →
        ∃ start tokens last, StartsAt options source start ∧
          LongestRun options source start tokens last ∧
          farthest? = some ⟨last, expectedAfter tokens⟩ := by
  obtain ⟨calculator₀, L, hnew, ho, hb, hs⟩ := exists_new options readerOptions
  refine ⟨calculator₀, hnew, fun calculator hreach source farthest? hparse => ?_⟩
  obtain ⟨hr, L', hb', hs'⟩ := hreach.exists_sound hb hs
  have htracked : calculator.reader.tracked = true := by rw [hr, tracked_of_new hnew]
  obtain ⟨step, failures, hd, hanswer⟩ :=
    (Reader.parse_iff hb' hs').1 (parse_eq_error_iff.1 hparse)
  obtain ⟨start, rest, hstart, hat⟩ := exists_startsAt options source
  cases expressionOutcome options hat with
  | reads hexpression _ _ _ =>
    obtain ⟨rfl, -⟩ := hd.unique (derives_grammar hstart hexpression)
    simp only [Step.prefixAnswer, ReaderOptions.complete] at hanswer
    split at hanswer <;> cases hanswer
  | stuck hexpression hstuck =>
    obtain ⟨tokens, need, last, himpasse⟩ := hstuck
    obtain ⟨o, hmiss, ho⟩ := misses_grammar hstart hexpression
    obtain ⟨rfl, rfl⟩ := hd.unique hmiss
    have htold : farthest? = calculator.reader.told failures := by
      rw [Step.prefixAnswer_of_not_matched ho] at hanswer
      cases hanswer
      rfl
    refine ⟨start, tokens, last, hstart, himpasse.longestRun, ?_⟩
    rw [htold, Reader.told, if_pos htracked, Tracker.farthest?_recordAll, himpasse.farthest,
      labels_eq_expectedAfter himpasse.takes himpasse.ne_operator_zero]

/-- What a calculator answers to a source that does not match, as running its parser shows. -/
theorem parse_eq_noMatch_of_run {calculator : Calculator} {source : List Char} {fuel : Nat}
    {o : Outcome Value} {store' : Store} (htracked : calculator.reader.tracked = true)
    (h : Parser.run source fuel calculator.reader.parser 0
      (calculator.reader.fresh calculator.store) = some (.ok o, store')) (ho : o.matched = false) :
    calculator.parse source = some (.error (.parse (.noMatch store'.tracker.farthest?))) := by
  have hprefix := Reader.exists_parsePrefix_iff.2
    ⟨_, _, Parser.invoke_eq_some_iff.2 ⟨fuel, h⟩, rfl⟩
  refine parse_eq_error_iff.2 (Reader.exists_parse_iff.2 ⟨_, hprefix, ?_⟩)
  rw [if_pos htracked, Step.prefixAnswer_of_not_matched ho]
  rfl

/-- The same for a new calculator, where all of the run can be computed. -/
theorem parse_eq_noMatch_of_new_run {options : CalcOptions} {readerOptions : ReaderOptions}
    {calculator : Calculator} {source : List Char} {fuel : Nat} {farthest? : Option Farthest}
    (hnew : new options readerOptions = .ok calculator)
    (hrun : ((new options readerOptions).toOption.bind fun calculator =>
      (Parser.run source fuel calculator.reader.parser 0
        (calculator.reader.fresh calculator.store)).map fun result =>
          (result.1.toOption.map Outcome.matched, result.2.tracker.farthest?)) =
      some (some false, farthest?)) :
    calculator.parse source = some (.error (.parse (.noMatch farthest?))) := by
  rw [hnew] at hrun
  obtain ⟨⟨step, store'⟩, hstep, hresult⟩ := Option.map_eq_some_iff.1 hrun
  obtain ⟨hmatched, rfl⟩ := Prod.mk.inj hresult
  match step with
  | .error _ => cases hmatched
  | .ok o => exact parse_eq_noMatch_of_run (tracked_of_new hnew) hstep (Option.some.inj hmatched)

/-- A parenthesis that is not closed. -/
theorem noMatch_points_behind_longest_run_unclosed :
    ∃ calculator tokens, new { allowWhitespace := true } {} = .ok calculator ∧
      calculator.parse " (1 +2 ".toList =
        some (.error (.parse (.noMatch (some ⟨7, ["operator", "')'"]⟩)))) ∧
      LongestRun { allowWhitespace := true } " (1 +2 ".toList 1 tokens 7 ∧
      expectedAfter tokens = ["operator", "')'"] := by
  obtain ⟨calculator, hnew, h⟩ :=
    noMatch_points_behind_longest_run { allowWhitespace := true } {}
  have hrun : ((new { allowWhitespace := true } {}).toOption.bind fun calculator =>
      (Parser.run " (1 +2 ".toList 40 calculator.reader.parser 0
        (calculator.reader.fresh calculator.store)).map fun result =>
          (result.1.toOption.map Outcome.matched, result.2.tracker.farthest?)) =
      some (some false, some ⟨7, ["operator", "')'"]⟩) := by decide +kernel
  have hparse := parse_eq_noMatch_of_new_run hnew hrun
  obtain ⟨start, tokens, last, hstart, hlongest, hlast⟩ := h calculator .refl _ _ hparse
  obtain ⟨rfl, hexpected⟩ := Farthest.mk.inj (Option.some.inj hlast)
  have hone : StartsAt { allowWhitespace := true } " (1 +2 ".toList 1 :=
    ⟨[' '], "(1 +2 ".toList, rfl, by simp [Gap, Blank], by simp [Settled, Blank], rfl⟩
  obtain rfl := hstart.unique hone
  exact ⟨calculator, tokens, hnew, hparse, hlongest, hexpected.symm⟩

end Calculator

end Descent.Calc
