import Descent.Proofs.Calc.Number
import Descent.Proofs.Calc.Tree
import Descent.Proofs.Meaning.Matches

/-!
# The tokens of the calculator

What each token of the grammar takes from the input: the text of the token, and all blanks behind it
if blanks are allowed (`Stands`).
-/

namespace Descent.Calc

/-- The tokens stand at the position, with a gap behind each of them, up to `next`. -/
def Stands (options : CalcOptions) (input : List Char) (position : Nat) (tokens : List (List Char))
    (next : Nat) : Prop :=
  ∃ text rest, Text.At input position (text ++ rest) ∧ Trailing options tokens text ∧
    next = position + Text.byteLength text

/-- No gap can go on here. -/
def Settled (options : CalcOptions) (rest : List Char) : Prop :=
  ∀ c ∈ rest.head?, options.allowWhitespace = true → ¬ Blank c

section
variable {options : CalcOptions} {rules : Rules} {input : List Char} {position next : Nat}
  {v : Value} {d : Nat} {ρ : List (String × Closure)}

/-! ## Texts of tokens -/

namespace Stands

variable {tokens tokens' : List (List Char)} {mid : Nat}

theorem append (h : Stands options input position tokens mid)
    (h' : Stands options input mid tokens' next) :
    Stands options input position (tokens ++ tokens') next := by
  obtain ⟨text, rest, hat, ht, rfl⟩ := h
  obtain ⟨text', rest', hat', ht', rfl⟩ := h'
  obtain rfl := hat.append.unique hat'
  refine ⟨text ++ text', rest', ?_, trailing_append_iff.2 ⟨text, text', rfl, ht, ht'⟩, ?_⟩
  · rwa [List.append_assoc]
  · rw [Text.byteLength_append, Nat.add_assoc]

/-- At the end, no tokens stand. -/
theorem nil (h : Stands options input position tokens next) :
    Stands options input next [] next := by
  obtain ⟨text, rest, hat, -, rfl⟩ := h
  exact ⟨[], rest, hat.append, .nil, rfl⟩

theorem le_length (h : Stands options input position tokens next) :
    next ≤ Text.byteLength input := by
  obtain ⟨text, rest, hat, -, rfl⟩ := h
  exact hat.append.le_length

theorem le (h : Stands options input position tokens next) : position ≤ next := by
  obtain ⟨text, rest, -, -, rfl⟩ := h
  exact Nat.le_add_right ..

theorem lt {c : Char} {token : List Char}
    (h : Stands options input position [c :: token] next) : position < next := by
  obtain ⟨text, rest, -, ht, rfl⟩ := h
  obtain ⟨gap, rfl, -⟩ := trailing_singleton_iff.1 ht
  have hpos := Char.utf8Size_pos c
  rw [List.cons_append, Text.byteLength_cons]
  omega

end Stands

/-! ## Blanks -/

theorem mem_blankCharacters_iff {c : Char} : c ∈ blankCharacters.toList ↔ Blank c := by
  have : blankCharacters.toList = [' ', '\t', '\r', '\n'] := rfl
  simp [this, Blank]

theorem exists_gap_of_iterates {vs : List Value} {rest : List Char}
    (h : Iterates rules input ⟨.charClass blankCharacters false, d, ρ⟩ position vs next)
    (hat : Text.At input position rest) :
    ∃ gap rest', rest = gap ++ rest' ∧ (∀ c ∈ gap, Blank c) ∧
      next = position + Text.byteLength gap := by
  induction h generalizing rest with
  | stop _ => exact ⟨[], rest, rfl, (fun _ hc => nomatch hc), rfl⟩
  | @next position next last v vs hm _ _ ih =>
    obtain ⟨c, rest₁, hat₁, hc, rfl, rfl⟩ := matches_charClass_iff.1 hm
    obtain rfl := hat.unique hat₁
    obtain ⟨gap, rest', rfl, hg, rfl⟩ := ih (@Text.At.append input [c] _ _ hat)
    refine ⟨c :: gap, rest', rfl, List.forall_mem_cons.2 ⟨mem_blankCharacters_iff.1 hc, hg⟩, ?_⟩
    rw [Text.byteLength_cons, Nat.add_assoc]

theorem exists_iterates_of_gap {gap rest : List Char} (hat : Text.At input position (gap ++ rest))
    (hg : ∀ c ∈ gap, Blank c)
    (hr : ∀ c ∈ rest.head?, ¬ Blank c) :
    ∃ vs, Iterates rules input ⟨.charClass blankCharacters false, d, ρ⟩ position vs
      (position + Text.byteLength gap) := by
  induction gap generalizing position with
  | nil =>
    refine ⟨[], .stop (fails_charClass hat fun c hc => ?_)⟩
    rw [mem_blankCharacters_iff]
    exact hr c hc
  | cons c gap ih =>
    obtain ⟨hc, hg'⟩ := List.forall_mem_cons.1 hg
    have hpos := Char.utf8Size_pos c
    obtain ⟨vs, h⟩ := ih (@Text.At.append input [c] _ _ hat) hg'
    refine ⟨.ofChars [c] :: vs, .next (matches_charClass_iff.2
      ⟨c, gap ++ rest, hat, mem_blankCharacters_iff.2 hc, rfl, rfl⟩) (by omega) ?_⟩
    rw [Text.byteLength_cons, ← Nat.add_assoc]
    exact h

/-! ## Tokens -/

/-- A token in the grammar takes the blanks behind it. -/
theorem matches_lexeme_inv {g : Grammar}
    (h : Matches rules input ⟨lexeme options g, d, ρ⟩ position v next) :
    ∃ mid, Matches rules input ⟨g, d, ρ⟩ position v mid ∧
      ∀ rest, Text.At input mid rest → ∃ gap rest', rest = gap ++ rest' ∧ Gap options gap ∧
        next = mid + Text.byteLength gap := by
  unfold lexeme at h
  split at h
  · rename_i ho
    obtain ⟨w, hs, rfl⟩ := matches_transform_iff.1 h
    obtain ⟨v, mid, _, hm, hblanks, rfl⟩ := matches_both_iff.1 hs
    refine ⟨mid, hm, fun rest hat => ?_⟩
    obtain ⟨us, rfl, hi⟩ := matches_many_iff.1 hblanks
    obtain ⟨gap, rest', hrest, hg, hn⟩ := exists_gap_of_iterates hi hat
    exact ⟨gap, rest', hrest, fun c hc => ⟨ho, hg c hc⟩, hn⟩
  · exact ⟨next, h, fun rest _ => ⟨[], rest, rfl, (fun _ hc => nomatch hc), rfl⟩⟩

theorem matches_lexeme {g : Grammar} {gap rest : List Char}
    (h : Matches rules input ⟨g, d, ρ⟩ position v next)
    (hat : Text.At input next (gap ++ rest)) (hg : Gap options gap) (hr : Settled options rest) :
    Matches rules input ⟨lexeme options g, d, ρ⟩ position v (next + Text.byteLength gap) := by
  unfold lexeme
  split
  · rename_i ho
    obtain ⟨vs, hi⟩ := exists_iterates_of_gap hat (fun c hc => (hg c hc).2)
      (fun c hc => hr c hc ho)
    have hblanks := matches_many_iff.2 ⟨vs, rfl, hi⟩
    exact matches_transform_iff.2 ⟨_, matches_both_iff.2 ⟨v, next, _, h, hblanks, rfl⟩, rfl⟩
  · rename_i ho
    have : gap = [] := List.eq_nil_iff_forall_not_mem.2 fun c hc => ho (hg c hc).1
    subst this
    exact h

theorem fails_lexeme {g : Grammar} (h : Fails rules input ⟨g, d, ρ⟩ position) :
    Fails rules input ⟨lexeme options g, d, ρ⟩ position := by
  unfold lexeme
  split
  · exact fails_transform (fails_sequence_cons h)
  · exact h

/-- What a token takes whose own text is known. -/
theorem stands_of_lexeme {g : Grammar}
    (h : Matches rules input ⟨lexeme options g, d, ρ⟩ position v next) {P : List Char → Prop}
    (hg : ∀ mid, Matches rules input ⟨g, d, ρ⟩ position v mid →
      ∃ token rest, P token ∧ Text.At input position (token ++ rest) ∧
        mid = position + Text.byteLength token) :
    ∃ token, P token ∧ Stands options input position [token] next := by
  obtain ⟨mid, hm, hgap⟩ := matches_lexeme_inv h
  obtain ⟨token, rest, hP, hat, rfl⟩ := hg mid hm
  obtain ⟨gap, rest, rfl, hg, rfl⟩ := hgap rest hat.append
  refine ⟨token, hP, token ++ gap, rest, ?_, trailing_singleton_iff.2 ⟨gap, rfl, hg⟩, ?_⟩
  · rwa [List.append_assoc]
  · rw [Text.byteLength_append, Nat.add_assoc]

/-! ## Numbers -/

theorem matches_numberToken_iff :
    Matches rules input ⟨numberToken, d, ρ⟩ position v next ↔
      ∃ (n : Nat) (rest : List Char), Text.At input position (Text.digits n ++ rest) ∧
        numberMatcher.match? (Text.digits n ++ rest) = some (Text.digits n) ∧
        (n : Int) ≤ Text.maxInt64 ∧ v = .num n ∧
        next = position + Text.byteLength (Text.digits n) := by
  refine matches_tryTransform_iff.trans ?_
  constructor
  · rintro ⟨w, hp, hv⟩
    obtain ⟨text, rest, hat, hm, rfl, rfl⟩ := (matches_pattern_iff compile?_numberPattern).1 hp
    obtain ⟨n, rfl⟩ : ∃ n, text = Text.digits n := ⟨_, (numeral_of_match? hm).1.digits_value.symm⟩
    rw [numberValue?_digits] at hv
    split at hv
    · rename_i hn
      exact ⟨n, rest, hat, hm, hn, (Option.some.inj hv).symm, rfl⟩
    · cases hv
  · rintro ⟨n, rest, hat, hm, hn, rfl, rfl⟩
    refine ⟨_, (matches_pattern_iff compile?_numberPattern).2 ⟨_, rest, hat, hm, rfl, rfl⟩, ?_⟩
    rw [numberValue?_digits, if_pos hn]

/-- A number takes its digits. -/
theorem stands_number (h : Matches rules input ⟨number options, d, ρ⟩ position v next) :
    ∃ n : Nat, (n : Int) ≤ Text.maxInt64 ∧ v = .num n ∧
      Stands options input position [Text.digits n] next := by
  obtain ⟨token, ⟨n, rfl, hn, hv⟩, ht⟩ := stands_of_lexeme (matches_labelled_iff.1 h)
    (P := fun token => ∃ n : Nat, token = Text.digits n ∧ (n : Int) ≤ Text.maxInt64 ∧ v = .num n)
    (by
      intro mid hm
      obtain ⟨n, rest, hat, -, hn, hv, hmid⟩ := matches_numberToken_iff.1 hm
      exact ⟨Text.digits n, rest, ⟨n, rfl, hn, hv⟩, hat, hmid⟩)
  exact ⟨n, hn, hv, ht⟩

theorem matches_number {n : Nat} {gap rest : List Char} (hn : (n : Int) ≤ Text.maxInt64)
    (hat : Text.At input position (Text.digits n ++ (gap ++ rest))) (hg : Gap options gap)
    (hr : Settled options rest) (hd : ∀ c ∈ (gap ++ rest).head?, c.isDigit = false) :
    Matches rules input ⟨number options, d, ρ⟩ position (.num n)
      (position + Text.byteLength (Text.digits n ++ gap)) := by
  rw [Text.byteLength_append, ← Nat.add_assoc]
  refine matches_labelled_iff.2 (matches_lexeme (matches_numberToken_iff.2 ?_) hat.append hg hr)
  exact ⟨n, gap ++ rest, hat, match?_numeral (Text.numeral_digits n) hd, hn, rfl, rfl⟩

theorem fails_number {rest : List Char} (hat : Text.At input position rest)
    (hd : ∀ c ∈ rest.head?, c.isDigit = false) :
    Fails rules input ⟨number options, d, ρ⟩ position :=
  fails_labelled (fails_lexeme (fails_tryTransform
    (fails_pattern compile?_numberPattern hat (match?_eq_none hd))))

/-! ## Operators and parentheses -/

theorem mem_operators_iff {c : Char} : c ∈ "+-".toList ↔ ∃ op : Operator, c = op.symbol := by
  have : "+-".toList = ['+', '-'] := rfl
  rw [this]
  constructor
  · intro h
    rcases List.mem_cons.1 h with rfl | h
    · exact ⟨.plus, rfl⟩
    · exact ⟨.minus, List.mem_singleton.1 h⟩
  · rintro ⟨op, rfl⟩
    cases op <;> decide

/-- An operator takes its symbol. -/
theorem stands_operator (h : Matches rules input ⟨operator options, d, ρ⟩ position v next) :
    ∃ op : Operator, v = op.toValue ∧ Stands options input position [[op.symbol]] next := by
  obtain ⟨token, ⟨op, rfl, hv⟩, ht⟩ := stands_of_lexeme (matches_labelled_iff.1 h)
    (P := fun token => ∃ op : Operator, token = [op.symbol] ∧ v = op.toValue)
    (by
      intro mid hm
      obtain ⟨c, rest, hat, hc, rfl, rfl⟩ := matches_charClass_iff.1 hm
      obtain ⟨op, rfl⟩ := mem_operators_iff.1 hc
      exact ⟨[op.symbol], rest, ⟨op, rfl, rfl⟩, hat, rfl⟩)
  exact ⟨op, hv, ht⟩

theorem matches_operator {op : Operator} {gap rest : List Char}
    (hat : Text.At input position ([op.symbol] ++ (gap ++ rest))) (hg : Gap options gap)
    (hr : Settled options rest) :
    Matches rules input ⟨operator options, d, ρ⟩ position op.toValue
      (position + Text.byteLength ([op.symbol] ++ gap)) := by
  rw [Text.byteLength_append, ← Nat.add_assoc]
  exact matches_labelled_iff.2 (matches_lexeme (matches_charClass_iff.2
    ⟨op.symbol, gap ++ rest, hat, mem_operators_iff.2 ⟨op, rfl⟩, rfl, rfl⟩) hat.append hg hr)

theorem fails_operator {rest : List Char} (hat : Text.At input position rest)
    (hc : ∀ c ∈ rest.head?, ∀ op : Operator, c ≠ op.symbol) :
    Fails rules input ⟨operator options, d, ρ⟩ position := by
  refine fails_labelled (fails_lexeme (fails_charClass hat fun c h hmem => ?_))
  obtain ⟨op, rfl⟩ := mem_operators_iff.1 hmem
  exact hc _ h op rfl

/-- A literal takes its text. -/
theorem stands_literal {label text : String}
    (h : Matches rules input ⟨.labelled label (lexeme options (.literal text)), d, ρ⟩
      position v next) : Stands options input position [text.toList] next := by
  obtain ⟨token, rfl, ht⟩ := stands_of_lexeme (matches_labelled_iff.1 h)
    (P := fun token => token = text.toList)
    (by
      intro mid hm
      obtain ⟨rest, hat, -, rfl⟩ := matches_literal_iff.1 hm
      exact ⟨_, rest, rfl, hat, rfl⟩)
  exact ht

theorem matches_token {label text : String} {gap rest : List Char}
    (hat : Text.At input position (text.toList ++ (gap ++ rest))) (hg : Gap options gap)
    (hr : Settled options rest) :
    Matches rules input ⟨.labelled label (lexeme options (.literal text)), d, ρ⟩ position
      (.str text) (position + Text.byteLength (text.toList ++ gap)) := by
  rw [Text.byteLength_append, ← Nat.add_assoc]
  exact matches_labelled_iff.2 (matches_lexeme (matches_literal_iff.2 ⟨_, hat, rfl, rfl⟩)
    hat.append hg hr)

end

end Descent.Calc
