import Descent.Proofs.Calc.Exact
import Descent.Proofs.Calc.Offending
import Descent.Proofs.Text.DigitRuns

/-!
# The longest expression

Where all runs of digits have a value of at most 64 bits, the calculator takes the longest prefix of
a source that is an expression (`LongestSentence`), and there is no match just if no prefix is one
(`Calculator.parse_reads_longest`). The tokens of an expression are scanned one by one, but that a
number at its end may go on in the source (`exists_scans`). So the expression ends where the tokens
of the source are at the end of one, and the parser has seen that nothing beyond is (`Ends.le`).
-/

namespace Descent.Calc

open Need

/-- The text is an expression of the grammar, and this is its tree. -/
def Sentence (options : CalcOptions) (e : Expr) (text : List Char) : Prop :=
  (∀ n ∈ e.numbers, 0 ≤ n) ∧ Writes options e text

/-- The longest prefix of the source that is an expression, with its tree. -/
structure LongestSentence (options : CalcOptions) (source : List Char) (e : Expr)
    (text : List Char) : Prop where
  isPrefix : text <+: source
  sentence : Sentence options e text
  longest : ∀ e' text', text' <+: source → Sentence options e' text' →
    Text.byteLength text' ≤ Text.byteLength text

section
variable {options : CalcOptions} {input text gap gap' rest rest' token token' : List Char}
  {position next last : Nat} {tokens tokens' : List (List Char)} {need need' need'' : Need}

/-! ## Numbers that go on -/

theorem numeral_append {digits : List Char} (h : Text.Numeral text) (h0 : text ≠ ['0'])
    (hd : ∀ c ∈ digits, c.isDigit = true) : Text.Numeral (text ++ digits) := by
  cases h with
  | @mk c cs hc hcs hz =>
    refine .mk hc (List.forall_mem_append.2 ⟨hcs, hd⟩) fun h => ?_
    rw [h, hz h] at h0
    exact absurd rfl h0

/-- From a numeral on, the pattern of numbers takes the numeral, and maybe more digits. -/
theorem exists_match?_of_numeral (h : Text.Numeral text) (following : List Char) :
    ∃ more rest, following = more ++ rest ∧ (∀ c ∈ more, c.isDigit = true) ∧
      numberMatcher.match? (text ++ following) = some (text ++ more) := by
  by_cases h0 : text = ['0']
  · subst h0
    exact ⟨[], following, rfl, List.forall_mem_nil _, match?_zero following⟩
  · obtain ⟨more, rest, rfl, hmore, hrest⟩ := exists_append_stops Char.isDigit following
    have hm := match?_numeral (numeral_append h h0 hmore) hrest
    rw [List.append_assoc] at hm
    exact ⟨more, rest, rfl, hmore, hm⟩

/-! ## Tokens of a text in a source -/

theorem byteLength_le_of_gap (h : gap ++ rest = gap' ++ rest') (hg : Gap options gap)
    (hg' : Gap options gap') (hr' : Settled options rest') :
    Text.byteLength gap ≤ Text.byteLength gap' := by
  rw [← takeWhile_gap hg' hr', ← h, List.takeWhile_append_of_pos (gap_iff.1 hg),
    Text.byteLength_append]
  exact Nat.le_add_right _ _

/-- A token with a gap behind it reaches at least to the end of the gap. -/
theorem Lexes.exists_tokenAt (h : Lexes (token ++ (gap ++ rest)) token)
    (hat : Text.At input position (token ++ (gap ++ rest))) (hg : Gap options gap) :
    ∃ next, TokenAt options input position token next ∧
      position + Text.byteLength (token ++ gap) ≤ next := by
  obtain ⟨gap', rest', hrest, hg', hr'⟩ := exists_gap options (gap ++ rest)
  rw [hrest] at h hat
  have hle := byteLength_le_of_gap hrest hg hg' hr'
  refine ⟨_, ⟨gap', rest', hat, h, hg', hr', rfl⟩, ?_⟩
  simp only [Text.byteLength_append]
  omega

/-- The last token of an expression may go on in the source, if it is a number. -/
theorem exists_last_token (hfit : Text.DigitsFit input) (ht : need.Takes token (.operator 0))
    (hat : Text.At input position (token ++ (gap ++ rest))) (hg : Gap options gap) :
    ∃ token' next, need.Takes token' (.operator 0) ∧
      TokenAt options input position token' next ∧
      position + Text.byteLength (token ++ gap) ≤ next := by
  cases ht with
  | closing =>
    obtain ⟨next, hnext, hle⟩ := Lexes.exists_tokenAt (.closing rfl) hat hg
    exact ⟨[')'], next, .closing, hnext, hle⟩
  | @number d n hn =>
    obtain ⟨more, rest', hrest, hmore, hm⟩ :=
      exists_match?_of_numeral (Text.numeral_digits n) (gap ++ rest)
    obtain ⟨m, hdigits, hvalue⟩ := Lexes.exists_digits hm
    -- The digits that follow belong to the number, which fits as all runs of digits do.
    have hm' : (m : Int) ≤ Text.maxInt64 := by
      obtain ⟨front, hfront, -⟩ := hat
      rw [hrest, ← List.append_assoc (Text.digits n)] at hfront
      rw [← hvalue]
      refine hfit.of_digits hfront ?_
      rw [hdigits]
      exact fun c => Text.isDigit_of_mem_digits
    have hl : Lexes (Text.digits n ++ (gap ++ rest)) (Text.digits n ++ more) := by
      rw [hdigits] at hm ⊢
      exact Lexes.digits_iff.2 ⟨hm, hm'⟩
    cases more with
    | nil =>
      rw [List.append_nil] at hl
      obtain ⟨next, hnext, hle⟩ := hl.exists_tokenAt hat hg
      exact ⟨_, next, .number hn, hnext, hle⟩
    | cons c more =>
      -- Where the number goes on, there was no gap behind it.
      have hgap : gap = [] := by
        cases gap with
        | nil => rfl
        | cons b gap =>
          obtain rfl : b = c := (List.cons.inj hrest).1
          have hblank := (hg b List.mem_cons_self).2.isDigit
          rw [hmore b List.mem_cons_self] at hblank
          cases hblank
      subst hgap
      rw [List.nil_append] at hrest hat hl
      have hat' : Text.At input position ((Text.digits n ++ (c :: more)) ++ ([] ++ rest')) := by
        simpa [hrest] using hat
      have hl' : Lexes ((Text.digits n ++ (c :: more)) ++ ([] ++ rest'))
          (Text.digits n ++ (c :: more)) := by simpa [hrest] using hl
      obtain ⟨next, hnext, hle⟩ := hl'.exists_tokenAt hat' (List.forall_mem_nil _)
      refine ⟨_, next, ?_, hnext, ?_⟩
      · rw [hdigits]
        exact .number hm'
      · simp only [Text.byteLength_append, Text.byteLength_nil] at hle ⊢
        omega

theorem Need.Takes.opens {d : Nat} (h : (Need.atom d).Takes token need') : Opens token := by
  rcases takes_atom_iff.1 h with ⟨n, -, rfl, -⟩ | ⟨rfl, -⟩
  · exact opens_digits n
  · exact ⟨'(', [], rfl, .inl rfl⟩

theorem Need.Takes.stops {d : Nat} (h : (Need.operator d).Takes token need') (rest : List Char) :
    Stops (token ++ rest) := by
  rcases takes_operator_iff.1 h with ⟨op, rfl, -⟩ | ⟨rfl, -⟩
  · rintro c ⟨⟩
    exact .inr ⟨op, rfl⟩
  · rintro c ⟨⟩
    exact .inl rfl

/-- A token that is followed by a wanted one ends with its gap. -/
theorem Need.Takes.tokenAt (h : need.Takes token need') (h' : need'.Takes token' need'')
    (hat : Text.At input position (token ++ (gap ++ (token' ++ rest)))) (hg : Gap options gap) :
    TokenAt options input position token (position + Text.byteLength (token ++ gap)) := by
  cases h with
  | @number d n hn =>
    have hstops := h'.stops rest
    have hm := match?_numeral (Text.numeral_digits n) (hstops.isDigit hg)
    exact ⟨gap, _, hat, Lexes.digits_iff.2 ⟨hm, hn⟩, hg, hstops.settled, rfl⟩
  | opening => exact ⟨gap, _, hat, .opening rfl, hg, (h'.opens.append rest).settled, rfl⟩
  | operator op => exact ⟨gap, _, hat, .operator op rfl, hg, (h'.opens.append rest).settled, rfl⟩
  | closing => exact ⟨gap, _, hat, .closing rfl, hg, (h'.stops rest).settled, rfl⟩

/-- Tokens up to the end of an expression are scanned where they stand, but that the last one may
go on. -/
theorem exists_scans (hfit : Text.DigitsFit input) (ht : TakesAll need tokens (.operator 0))
    (htext : Trailing options tokens text) (hat : Text.At input position (text ++ rest)) :
    ∃ tokens' last, Scans options input position tokens' last ∧
      TakesAll need tokens' (.operator 0) ∧ position + Text.byteLength text ≤ last := by
  induction htext generalizing need position with
  | nil => exact ⟨[], position, .nil, ht, Nat.le_refl _⟩
  | @cons token gap text tokens hg htext ih =>
    obtain ⟨need', htakes, htakes'⟩ := takesAll_cons_iff.1 ht
    cases htext with
    | nil =>
      obtain rfl := takesAll_nil_iff.1 htakes'
      have hat' : Text.At input position (token ++ (gap ++ rest)) := by simpa using hat
      obtain ⟨token', next, hnext, htoken, hle⟩ := exists_last_token hfit htakes hat' hg
      exact ⟨[token'], next, .singleton htoken, .cons hnext .nil, by simpa using hle⟩
    | @cons token' gap' text tokens hg' htext =>
      obtain ⟨need'', htakes'', -⟩ := takesAll_cons_iff.1 htakes'
      have hat' : Text.At input position
          (token ++ (gap ++ (token' ++ (gap' ++ text ++ rest)))) := by simpa using hat
      have htoken := htakes.tokenAt htakes'' hat' hg
      have hat'' : Text.At input (position + Text.byteLength (token ++ gap))
          (token' ++ (gap' ++ text) ++ rest) := by
        rw [← List.append_assoc] at hat'
        simpa using hat'.append
      obtain ⟨tokens', last, hs, hall, hle⟩ := ih htakes' hat''
      refine ⟨token :: tokens', last, .cons htoken hs, .cons htakes hall, ?_⟩
      simp only [Text.byteLength_append] at hle ⊢
      omega

/-! ## Where expressions end -/

/-- No expression goes on beyond where one ends. -/
theorem Ends.le {failures : List Failure} (h : Ends options input next failures)
    (hs : Scans options input position tokens next) (ht : TakesAll (.atom 0) tokens (.operator 0))
    (hs' : Scans options input position tokens' last)
    (ht' : TakesAll (.atom 0) tokens' (.operator 0)) : last ≤ next := by
  cases h with
  | complete hb _ =>
    obtain ⟨more, -, hmore⟩ := hb.longest hs ht hs' ht'
    exact hmore.le
  | @cut op mid hop hstuck =>
    rcases hs.comparable hs' with ⟨more, rfl, hmore⟩ | ⟨more, rfl, hmore⟩
    · cases hmore with
      | nil => exact Nat.le_refl _
      | cons htoken hmore =>
        -- The operator that follows is one of the tokens, and then there is the impasse.
        obtain ⟨rfl, rfl⟩ := hop.unique htoken
        obtain ⟨need, htokens, hrest⟩ := takesAll_append_iff.1 ht'
        obtain rfl := ht.unique htokens
        obtain ⟨need', htakes, hatom⟩ := takesAll_cons_iff.1 hrest
        obtain rfl := (Takes.operator op).unique htakes
        obtain ⟨tokens'', need'', peak, himpasse⟩ := hstuck
        obtain ⟨rest, rfl, -⟩ := himpasse.longest hmore hatom
        exact absurd hatom (himpasse.unfinished _ (List.prefix_append _ _))
    · exact hmore.le

theorem Stuck.not_scans {failures : List Failure} (h : Stuck options input position failures)
    (hs : Scans options input position tokens last) :
    ¬ TakesAll (.atom 0) tokens (.operator 0) := by
  intro ht
  obtain ⟨tokens', need, peak, himpasse⟩ := h
  obtain ⟨rest, rfl, -⟩ := himpasse.longest hs ht
  exact himpasse.unfinished _ (List.prefix_append _ _) ht

/-! ## Sentences -/

mutual

theorem Atom.inRange_iff : ∀ a : Atom,
    a.InRange ↔ ∀ n ∈ a.numbers, 0 ≤ n ∧ n ≤ Text.maxInt64
  | .number n => by simp [Atom.InRange, Atom.numbers]
  | .group inner => Expr.inRange_iff inner

theorem Expr.inRange_iff : ∀ e : Expr,
    e.InRange ↔ ∀ n ∈ e.numbers, 0 ≤ n ∧ n ≤ Text.maxInt64
  | .mk first rest => by
    simp only [Expr.InRange, Expr.numbers, List.forall_mem_append, Atom.inRange_iff first,
      restInRange_iff rest]

theorem restInRange_iff : ∀ rest : List (Operator × Atom),
    restInRange rest ↔ ∀ n ∈ restNumbers rest, 0 ≤ n ∧ n ≤ Text.maxInt64
  | [] => by simp [restInRange, restNumbers]
  | (op, a) :: rest => by
    simp only [restInRange, restNumbers, List.forall_mem_append, Atom.inRange_iff a,
      restInRange_iff rest]

end

mutual

theorem Atom.decimal_mem_tokens : ∀ (a : Atom) {n : Int}, n ∈ a.numbers →
    Text.decimal n ∈ a.tokens
  | .number m, n, h => by
    obtain rfl := List.mem_singleton.1 h
    exact List.mem_singleton.2 rfl
  | .group inner, n, h => by simp [Atom.tokens, Expr.decimal_mem_tokens inner h]

/-- The numbers of a tree are among its tokens. -/
theorem Expr.decimal_mem_tokens : ∀ (e : Expr) {n : Int}, n ∈ e.numbers →
    Text.decimal n ∈ e.tokens
  | .mk first rest, n, h => by
    rcases List.mem_append.1 h with h | h
    · exact List.mem_append_left _ (Atom.decimal_mem_tokens first h)
    · exact List.mem_append_right _ (decimal_mem_restTokens rest h)

theorem decimal_mem_restTokens : ∀ (rest : List (Operator × Atom)) {n : Int},
    n ∈ restNumbers rest → Text.decimal n ∈ restTokens rest
  | (op, a) :: rest, n, h => by
    rcases List.mem_append.1 h with h | h
    · simp [restTokens, Atom.decimal_mem_tokens a h]
    · simp [restTokens, decimal_mem_restTokens rest h]

end

theorem Trailing.infix_of_mem (h : Trailing options tokens text) (hm : token ∈ tokens) :
    token <:+: text := by
  induction h with
  | nil => cases hm
  | @cons token' gap text tokens _ _ ih =>
    rcases List.mem_cons.1 hm with rfl | hm
    · exact List.infix_append' [] token (gap ++ text)
    · obtain ⟨front, rest, h⟩ := ih hm
      exact ⟨token' ++ (gap ++ front), rest, by simp [← h]⟩

/-- Blanks before the first token come on their own, if there may be any. -/
theorem writes_iff {e : Expr} : Writes options e text ↔
    ∃ gap body, text = gap ++ body ∧ Gap options gap ∧ Trailing options e.tokens body := by
  cases ho : options.allowWhitespace with
  | true =>
    rw [Writes, if_pos ho, spaced_iff ho]
    simp [Gap, ho]
  | false =>
    have hnil : ∀ gap, Gap options gap ↔ gap = [] := by
      intro gap
      simp [Gap, ho, List.eq_nil_iff_forall_not_mem]
    rw [Writes, if_neg (by simp [ho]), ← e.flatten_tokens]
    simp [hnil, trailing_iff_flatten ho]

theorem Sentence.inRange {source : List Char} {e : Expr} (h : Sentence options e text)
    (hp : text <+: source) (hfit : Text.DigitsFit source) : e.InRange := by
  refine e.inRange_iff.2 fun n hn => ⟨h.1 n hn, ?_⟩
  obtain ⟨m, rfl⟩ := Int.eq_ofNat_of_zero_le (h.1 n hn)
  obtain ⟨gap, body, rfl, -, ht⟩ := writes_iff.1 h.2
  obtain ⟨front, rest, hbody⟩ := ht.infix_of_mem (e.decimal_mem_tokens hn)
  obtain ⟨rest', hsource⟩ := hp
  have hm : source = (gap ++ front) ++ (Text.digits m ++ (rest ++ rest')) := by
    rw [← hsource, ← hbody]
    simp [Text.decimal]
  have hvalue := hfit.of_digits hm fun c => Text.isDigit_of_mem_digits
  rwa [Text.valueOfDigits_digits] at hvalue

/-- A text is an expression in one way only. -/
theorem tree_unique {e e' : Expr} (hr : e.InRange) (hr' : e'.InRange) (h : Writes options e text)
    (h' : Writes options e' text) : e = e' := by
  obtain ⟨_, hd⟩ := matches_grammar_iff.2 ⟨e, rfl, hr, h⟩
  obtain ⟨_, hd'⟩ := matches_grammar_iff.2 ⟨e', rfl, hr', h'⟩
  have hvalue : e.toValue = e'.toValue := by
    have := (hd.unique hd').1
    simpa using this
  have := e'.ofValue?_toValue
  rw [← hvalue, e.ofValue?_toValue] at this
  exact Option.some.inj this

/-! ## The longest sentence -/

variable {source : List Char} {start : Nat} {e e' : Expr} {failures : List Failure} {v : Value}

/-- The tokens of the source are at the end of an expression, at the end of the text or beyond. -/
theorem Sentence.exists_scans (h : Sentence options e text) (hp : text <+: source)
    (hfit : Text.DigitsFit source) (hstart : StartsAt options source start) :
    ∃ tokens last, Scans options source start tokens last ∧
      TakesAll (.atom 0) tokens (.operator 0) ∧ Text.byteLength text ≤ last := by
  have hr := h.inRange hp hfit
  obtain ⟨gap, body, rfl, hg, ht⟩ := writes_iff.1 h.2
  obtain ⟨rest, rfl⟩ := hp
  rw [List.append_assoc] at hstart hfit ⊢
  have hsettled : Settled options (body ++ rest) := ((Expr.opens hr ht).append rest).settled
  obtain rfl := hstart.unique ⟨gap, body ++ rest, rfl, hg, hsettled, rfl⟩
  obtain ⟨tokens, last, hs, hall, hle⟩ :=
    Calc.exists_scans hfit (e.takesAll 0 hr) ht ⟨gap, rfl, rfl⟩
  exact ⟨tokens, last, hs, hall, by rwa [Text.byteLength_append]⟩

/-- What an expression matches at the start of a source is its longest sentence. -/
theorem exists_longestSentence (hfit : Text.DigitsFit source)
    (hstart : StartsAt options source start)
    (hd : Derives [] source (.whole (expressionMeaning options)) start (.ok (.success v next))
      failures)
    (hs : Scans options source start tokens next) (ht : TakesAll (.atom 0) tokens (.operator 0))
    (he : Ends options source next failures) :
    ∃ e text, v = e.toValue ∧ next = Text.byteLength text ∧
      LongestSentence options source e text := by
  have hlongest : ∀ e' text', text' <+: source → Sentence options e' text' →
      Text.byteLength text' ≤ next := by
    intro e' text' hp hsentence
    obtain ⟨tokens', last, hs', ht', hle⟩ := hsentence.exists_scans hp hfit hstart
    exact Nat.le_trans hle (he.le hs ht hs' ht')
  obtain ⟨e, rfl, hr, body, rest, hat, htrailing, rfl⟩ := reads_of_matches ⟨failures, hd⟩
  obtain ⟨gap, rest', rfl, hg, -, rfl⟩ := hstart
  obtain rfl : rest' = body ++ rest := Text.At.unique ⟨gap, rfl, rfl⟩ hat
  rw [← Text.byteLength_append] at hlongest ⊢
  have hsentence : Sentence options e (gap ++ body) :=
    ⟨fun n hn => (e.inRange_iff.1 hr n hn).1, writes_iff.2 ⟨gap, body, rfl, hg, htrailing⟩⟩
  exact ⟨e, gap ++ body, rfl, rfl, ⟨rest, List.append_assoc ..⟩, hsentence, hlongest⟩

/-- Where an expression comes to an impasse, no prefix of the source is a sentence. -/
theorem Stuck.not_sentence (h : Stuck options source start failures)
    (hfit : Text.DigitsFit source) (hstart : StartsAt options source start) (hp : text <+: source) :
    ¬ Sentence options e text := by
  intro hsentence
  obtain ⟨tokens, last, hs, ht, -⟩ := hsentence.exists_scans hp hfit hstart
  exact h.not_scans hs ht

theorem prefix_eq_of_byteLength (hp : text <+: source) (hp' : rest <+: source)
    (h : Text.byteLength text = Text.byteLength rest) : text = rest := by
  obtain ⟨more, rfl⟩ := hp
  obtain ⟨more', htext⟩ := hp'
  have hat : Text.At (text ++ more) (Text.byteLength text) more := ⟨text, rfl, rfl⟩
  have hat' : Text.At (text ++ more) (Text.byteLength text) more' := ⟨rest, htext.symm, h.symm⟩
  obtain rfl := hat.unique hat'
  exact (List.append_cancel_right htext).symm

/-- There is at most one longest sentence, and it has one tree. -/
theorem LongestSentence.unique (h : LongestSentence options source e text)
    (h' : LongestSentence options source e' rest) (hfit : Text.DigitsFit source) :
    e = e' ∧ text = rest := by
  have hlength : Text.byteLength text = Text.byteLength rest :=
    Nat.le_antisymm (h'.longest e text h.isPrefix h.sentence)
      (h.longest e' rest h'.isPrefix h'.sentence)
  obtain rfl := prefix_eq_of_byteLength h.isPrefix h'.isPrefix hlength
  exact ⟨tree_unique (h.sentence.inRange h.isPrefix hfit) (h'.sentence.inRange h'.isPrefix hfit)
    h.sentence.2 h'.sentence.2, rfl⟩

end

/-! ## Calculators -/

/-- What the grammar makes of a source whose digits fit: the longest sentence, or no match where
there is no sentence. -/
theorem grammar_reads_longest (options : CalcOptions) {source : List Char}
    (hfit : Text.DigitsFit source) :
    (∃ e text failures, LongestSentence options source e text ∧
      Derives [] source (.whole ⟨grammar options, 0, []⟩) 0
        (.ok (.success e.toValue (Text.byteLength text))) failures) ∨
    (∀ e text, text <+: source → ¬ Sentence options e text) ∧
      ∃ failures, Task.Misses [] source (.whole ⟨grammar options, 0, []⟩) 0 failures := by
  obtain ⟨start, rest, hstart, hat⟩ := exists_startsAt options source
  cases expressionOutcome options hat with
  | reads hd hs ht he =>
    obtain ⟨e, text, rfl, rfl, hlongest⟩ := exists_longestSentence hfit hstart hd hs ht he
    exact .inl ⟨e, text, _, hlongest, derives_grammar hstart hd⟩
  | stuck hmiss hstuck =>
    exact .inr ⟨fun e text hp => hstuck.not_sentence hfit hstart hp, _, misses_grammar hstart hmiss⟩

namespace Calculator

/-- What is returned for the longest sentence. -/
def answer (options : ReaderOptions) (source : List Char) (e : Expr) (consumed : Nat) :
    Except CalcError Expr :=
  if options.requireComplete ∧ consumed ≠ Text.byteLength source then
    .error (.parse (.incomplete consumed (Text.byteLength source)))
  else .ok e

theorem parse_eq_answer {calculator : Calculator} {rules : Rules} {L : Legend} {c : Closure}
    {source : List Char} {e : Expr} {consumed : Nat} {failures : List Failure}
    (hb : Built rules L [] calculator.reader.parser c) (hs : Sound rules [] L calculator.store)
    (hd : Derives rules source (.whole c) 0 (.ok (.success e.toValue consumed)) failures) :
    calculator.parse source = some (answer calculator.reader.options source e consumed) := by
  obtain ⟨store, hparse⟩ := (Reader.parse_iff hb hs).2 ⟨_, failures, hd, rfl⟩
  simp only [Step.prefixAnswer, ReaderOptions.complete, Bool.and_eq_true, bne_iff_ne] at hparse
  unfold answer
  split <;> rename_i hcomplete
  · rw [if_pos hcomplete] at hparse
    exact parse_eq_error_iff.2 ⟨store, hparse⟩
  · rw [if_neg hcomplete] at hparse
    exact parse_eq_ok_iff.2 ⟨_, ⟨store, hparse⟩, e.ofValue?_toValue⟩

/-- The calculator takes the longest prefix of a source that is an expression, however it has been
used before, if all runs of digits in the source have values of at most 64 bits: its parser does not
match just if there is no such prefix, and else answers with the tree of the longest one and its
length. -/
theorem parse_reads_longest (options : CalcOptions) (readerOptions : ReaderOptions) :
    ∃ calculator₀, new options readerOptions = .ok calculator₀ ∧
      ∀ calculator, Reaches calculator₀ calculator → ∀ source, Text.DigitsFit source →
        (∀ reader : Reader, reader.parser = calculator.reader.parser →
          ((∃ farthest? store, reader.parsePrefix source calculator.store =
              some (.error (.noMatch farthest?), store)) ↔
            ¬ ∃ e text, text <+: source ∧ Sentence options e text)) ∧
        ((∃ e text, text <+: source ∧ Sentence options e text) →
          ∃ e text, LongestSentence options source e text ∧
            (∀ e' text', LongestSentence options source e' text' → e' = e ∧ text' = text) ∧
            (∀ reader : Reader, reader.parser = calculator.reader.parser →
              ∃ store, reader.parsePrefix source calculator.store =
                some (.ok (e.toValue, Text.byteLength text), store)) ∧
            calculator.parse source =
              some (answer readerOptions source e (Text.byteLength text))) := by
  obtain ⟨calculator₀, L, hnew, ho, hb, hs⟩ := exists_new options readerOptions
  refine ⟨calculator₀, hnew, fun calculator hreach source hfit => ?_⟩
  obtain ⟨hr, L', hb', hs'⟩ := hreach.exists_sound hb hs
  have hbuilt : ∀ reader : Reader, reader.parser = calculator.reader.parser →
      Built [] L' [] reader.parser ⟨grammar options, 0, []⟩ := by
    intro reader hreader
    rwa [hreader]
  rcases grammar_reads_longest options hfit with
    ⟨e, text, failures, hlongest, hd⟩ | ⟨hnone, failures, o, hd, hmiss⟩
  · have hprefix : ∀ reader : Reader, reader.parser = calculator.reader.parser →
        ∃ store, reader.parsePrefix source calculator.store =
          some (.ok (e.toValue, Text.byteLength text), store) := fun reader hreader =>
      (Reader.parsePrefix_iff (hbuilt reader hreader) hs').2 ⟨_, failures, hd, rfl⟩
    have honly : ∀ e' text', LongestSentence options source e' text' → e' = e ∧ text' = text :=
      fun e' text' h => h.unique hlongest hfit
    refine ⟨fun reader hreader => ⟨?_, fun hnone => ?_⟩,
      fun _ => ⟨e, text, hlongest, honly, hprefix, ?_⟩⟩
    · rintro ⟨farthest?, store, hparse⟩
      obtain ⟨store', hok⟩ := hprefix reader hreader
      rw [hparse] at hok
      cases hok
    · exact absurd ⟨e, text, hlongest.isPrefix, hlongest.sentence⟩ hnone
    · rw [parse_eq_answer hb' hs' hd, hr, ho]
  · refine ⟨fun reader hreader => ⟨fun _ => ?_, fun _ => ?_⟩, fun h => ?_⟩
    · rintro ⟨e, text, hp, hsentence⟩
      exact hnone e text hp hsentence
    · exact ⟨_, (Reader.parsePrefix_iff (hbuilt reader hreader) hs').2
        ⟨_, failures, hd, (Step.prefixAnswer_of_not_matched hmiss _).symm⟩⟩
    · obtain ⟨e, text, hp, hsentence⟩ := h
      exact absurd hsentence (hnone e text hp)

/-- A number, and an operator behind it that leads nowhere. -/
theorem parse_reads_longest_dangling :
    ∃ calculator e text, new {} {} = .ok calculator ∧ Text.DigitsFit "12+(3".toList ∧
      LongestSentence {} "12+(3".toList e text ∧ Text.byteLength text = 2 ∧
      calculator.parse "12+(3".toList = some (.error (.parse (.incomplete 2 5))) := by
  obtain ⟨calculator, hnew, h⟩ := parse_reads_longest {} {}
  have hfit : Text.DigitsFit "12+(3".toList := Text.digitsFit_of_length_le (by decide)
  have hsentence : Sentence {} (.mk (.number 12) []) "12".toList :=
    ⟨by simp [Expr.numbers, Atom.numbers, restNumbers], rfl⟩
  obtain ⟨e, text, hlongest, -, hprefix, hparse⟩ :=
    (h calculator .refl _ hfit).2 ⟨_, _, ⟨"+(3".toList, rfl⟩, hsentence⟩
  have hrun : ((new {} {}).toOption.bind fun calculator =>
      (Parser.run "12+(3".toList 40 calculator.reader.parser 0
        (calculator.reader.fresh calculator.store)).map fun result =>
          result.1.toOption.map Outcome.next) = some (some 2) := by decide +kernel
  rw [hnew] at hrun
  obtain ⟨⟨step, store'⟩, hstep, hnext⟩ := Option.map_eq_some_iff.1 hrun
  obtain ⟨store, hanswer⟩ := hprefix calculator.reader rfl
  obtain ⟨store'', hanswer'⟩ := Reader.exists_parsePrefix_iff.2
    ⟨_, _, Parser.invoke_eq_some_iff.2 ⟨40, hstep⟩, rfl⟩
  have hlength : Text.byteLength text = 2 := by
    rw [hanswer] at hanswer'
    have := congrArg Prod.fst (Option.some.inj hanswer')
    match step with
    | .ok (.success v next) =>
      obtain rfl := Option.some.inj hnext
      simp only [Step.prefixAnswer, Except.ok.injEq, Prod.mk.injEq] at this
      exact this.2
    | .error _ | .ok (.failure _) | .ok (.rejected _ _) => cases this
  rw [hlength] at hparse
  exact ⟨calculator, e, text, hnew, hfit, hlongest, hlength, hparse⟩

end Calculator

end Descent.Calc
