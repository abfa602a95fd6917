import Descent.Proofs.Calc.Beginning
import Descent.Proofs.Calc.Language
import Descent.Proofs.Meaning.Misses

/-!
# The tokens of an input

`Lexes` is the token at the start of a text: a number, an operator or a parenthesis. `Scans` goes
over an input token by token, from left to right, each with all blanks behind it. There is one way
to do so (`Scans.comparable`). At each position, a token of the grammar matches and records nothing
if it stands there, and else records its label (`Decides`).
-/

namespace Descent.Calc

/-- The text starts with the token. A number is what the pattern of numbers matches, if its value
has at most 64 bits. -/
inductive Lexes (text : List Char) : List Char → Prop
  | number {digits : List Char} : numberMatcher.match? text = some digits →
      (Text.valueOfDigits digits : Int) ≤ Text.maxInt64 → Lexes text digits
  | operator (op : Operator) : text.head? = some op.symbol → Lexes text [op.symbol]
  | opening : text.head? = some '(' → Lexes text ['(']
  | closing : text.head? = some ')' → Lexes text [')']

/-- The token stands at the position, and all blanks behind it reach up to `next`. -/
def TokenAt (options : CalcOptions) (input : List Char) (position : Nat) (token : List Char)
    (next : Nat) : Prop :=
  ∃ gap rest, Text.At input position (token ++ (gap ++ rest)) ∧
    Lexes (token ++ (gap ++ rest)) token ∧ Gap options gap ∧ Settled options rest ∧
    next = position + Text.byteLength (token ++ gap)

/-- The tokens of the input from the position on, up to `last`. -/
inductive Scans (options : CalcOptions) (input : List Char) :
    Nat → List (List Char) → Nat → Prop
  | nil {position : Nat} : Scans options input position [] position
  | cons {position next last : Nat} {token : List Char} {tokens : List (List Char)} :
      TokenAt options input position token next → Scans options input next tokens last →
      Scans options input position (token :: tokens) last

section
variable {options : CalcOptions} {input text gap gap' rest rest' token token' : List Char}
  {position next next' last last' : Nat} {tokens tokens' : List (List Char)}

/-! ## Gaps -/

/-- Whether the character can stand between tokens. -/
def CalcOptions.between (options : CalcOptions) (c : Char) : Bool :=
  options.allowWhitespace && decide (Blank c)

theorem gap_iff : Gap options gap ↔ ∀ c ∈ gap, options.between c = true := by
  simp [Gap, CalcOptions.between]

theorem settled_iff : Settled options rest ↔ ∀ c ∈ rest.head?, options.between c = false := by
  simp [Settled, CalcOptions.between]

/-- Each text starts with a gap that cannot go on. -/
theorem exists_gap (options : CalcOptions) (text : List Char) :
    ∃ gap rest, text = gap ++ rest ∧ Gap options gap ∧ Settled options rest := by
  obtain ⟨gap, rest, htext, hg, hr⟩ := exists_append_stops options.between text
  exact ⟨gap, rest, htext, gap_iff.2 hg, settled_iff.2 hr⟩

theorem takeWhile_gap (hg : Gap options gap) (hr : Settled options rest) :
    (gap ++ rest).takeWhile options.between = gap :=
  takeWhile_append_stops (gap_iff.1 hg) (settled_iff.1 hr)

theorem gap_unique (h : gap ++ rest = gap' ++ rest') (hg : Gap options gap)
    (hr : Settled options rest) (hg' : Gap options gap') (hr' : Settled options rest') :
    gap = gap' := by
  rw [← takeWhile_gap hg hr, h, takeWhile_gap hg' hr']

/-! ## The token of a text -/

namespace Lexes

theorem exists_cons (h : Lexes text token) :
    ∃ c cs rest, token = c :: cs ∧ text = token ++ rest := by
  have hhead : ∀ {c : Char}, text.head? = some c → ∃ rest, text = [c] ++ rest := by
    intro c hc
    cases text with
    | nil => cases hc
    | cons d text =>
      obtain rfl := Option.some.inj hc
      exact ⟨text, rfl⟩
  cases h with
  | number hm _ =>
    obtain ⟨⟨_, _, _⟩, rest, hrest⟩ := numeral_of_match? hm
    exact ⟨_, _, rest, rfl, hrest⟩
  | operator op hc =>
    obtain ⟨rest, hrest⟩ := hhead hc
    exact ⟨_, _, rest, rfl, hrest⟩
  | opening hc | closing hc =>
    obtain ⟨rest, hrest⟩ := hhead hc
    exact ⟨_, _, rest, rfl, hrest⟩

/-- Numbers start with a digit, and all other tokens are one character that is none. -/
theorem number_or_symbol (h : Lexes text token) :
    (numberMatcher.match? text = some token ∧ (Text.valueOfDigits token : Int) ≤ Text.maxInt64) ∨
      ∃ c, text.head? = some c ∧ token = [c] ∧ c.isDigit = false := by
  cases h with
  | number hm hv => exact .inl ⟨hm, hv⟩
  | operator op hc => exact .inr ⟨_, hc, rfl, op.isDigit_symbol⟩
  | opening hc | closing hc => exact .inr ⟨_, hc, rfl, rfl⟩

theorem unique (h : Lexes text token) (h' : Lexes text token') : token = token' := by
  have hnone : ∀ {c : Char} {digits : List Char}, text.head? = some c → c.isDigit = false →
      numberMatcher.match? text ≠ some digits := by
    intro c digits hc hd hm
    have : numberMatcher.match? text = none := match?_eq_none (by simp [hc, hd])
    simp [this] at hm
  rcases h.number_or_symbol with ⟨hm, -⟩ | ⟨c, hc, rfl, hd⟩ <;>
    rcases h'.number_or_symbol with ⟨hm', -⟩ | ⟨c', hc', rfl, hd'⟩
  · exact Option.some.inj (hm.symm.trans hm')
  · exact absurd hm (hnone hc' hd')
  · exact absurd hm' (hnone hc hd)
  · rw [Option.some.inj (hc.symm.trans hc')]

theorem digits_iff {n : Nat} : Lexes text (Text.digits n) ↔
    numberMatcher.match? text = some (Text.digits n) ∧ (n : Int) ≤ Text.maxInt64 := by
  constructor
  · intro h
    rcases h.number_or_symbol with ⟨hm, hv⟩ | ⟨c, -, hc, hd⟩
    · rw [Text.valueOfDigits_digits] at hv
      exact ⟨hm, hv⟩
    · exact absurd hc (digits_ne_singleton hd)
  · rintro ⟨hm, hn⟩
    exact .number hm (by rwa [Text.valueOfDigits_digits])

/-- A number is written with the digits of its value. -/
theorem exists_digits (hm : numberMatcher.match? text = some token) :
    ∃ n, token = Text.digits n ∧ Text.valueOfDigits token = n :=
  ⟨_, (numeral_of_match? hm).1.digits_value.symm, rfl⟩

end Lexes

/-! ## Tokens at positions -/

namespace TokenAt

theorem lexes (h : TokenAt options input position token next)
    (hat : Text.At input position text) : Lexes text token := by
  obtain ⟨gap, rest, hat', hl, -⟩ := h
  rwa [hat.unique hat']

theorem lt (h : TokenAt options input position token next) : position < next := by
  obtain ⟨gap, rest, -, hl, -, -, rfl⟩ := h
  obtain ⟨c, cs, -, rfl, -⟩ := hl.exists_cons
  have hpos := Char.utf8Size_pos c
  rw [List.cons_append, Text.byteLength_cons]
  omega

theorem exists_at (h : TokenAt options input position token next) :
    ∃ rest, Text.At input next rest := by
  obtain ⟨gap, rest, hat, -, -, -, rfl⟩ := h
  rw [← List.append_assoc] at hat
  exact ⟨rest, hat.append⟩

theorem unique (h : TokenAt options input position token next)
    (h' : TokenAt options input position token' next') : token = token' ∧ next = next' := by
  obtain ⟨gap, rest, hat, hl, hg, hr, rfl⟩ := h
  obtain ⟨gap', rest', hat', hl', hg', hr', rfl⟩ := h'
  have htext := hat.unique hat'
  rw [← htext] at hl'
  obtain rfl := hl.unique hl'
  rw [gap_unique (List.append_cancel_left htext) hg hr hg' hr']
  exact ⟨rfl, rfl⟩

end TokenAt

/-! ## Tokens one after another -/

namespace Scans

theorem singleton (h : TokenAt options input position token next) :
    Scans options input position [token] next := .cons h .nil

theorem append (h : Scans options input position tokens next)
    (h' : Scans options input next tokens' last) :
    Scans options input position (tokens ++ tokens') last := by
  induction h with
  | nil => exact h'
  | cons ht _ ih => exact .cons ht (ih h')

theorem le (h : Scans options input position tokens last) : position ≤ last := by
  induction h with
  | nil => exact Nat.le_refl _
  | cons ht _ ih => exact Nat.le_trans (Nat.le_of_lt ht.lt) ih

theorem exists_at (h : Scans options input position tokens last)
    (hat : Text.At input position text) : ∃ rest, Text.At input last rest := by
  induction h generalizing text with
  | nil => exact ⟨text, hat⟩
  | cons ht _ ih =>
    obtain ⟨rest, hat⟩ := ht.exists_at
    exact ih hat

/-- Of two scans from one position, one goes on from the other. -/
theorem comparable (h : Scans options input position tokens last)
    (h' : Scans options input position tokens' last') :
    (∃ more, tokens' = tokens ++ more ∧ Scans options input last more last') ∨
      ∃ more, tokens = tokens' ++ more ∧ Scans options input last' more last := by
  induction h generalizing tokens' with
  | nil => exact .inl ⟨tokens', rfl, h'⟩
  | @cons position next last token tokens ht hs ih =>
    cases h' with
    | nil => exact .inr ⟨token :: tokens, rfl, .cons ht hs⟩
    | cons ht' hs' =>
      obtain ⟨rfl, rfl⟩ := ht.unique ht'
      rcases ih hs' with ⟨more, rfl, hm⟩ | ⟨more, rfl, hm⟩
      · exact .inl ⟨more, rfl, hm⟩
      · exact .inr ⟨more, rfl, hm⟩

end Scans

/-! ## Tokens of the grammar -/

variable {ρ : List (String × Closure)} {g : Grammar} {label : String}

/-- The definition matches one of these tokens with its value and records nothing, or there is none
of them, and it records its label. -/
def Decides (options : CalcOptions) (input : List Char) (c : Closure) (label : String)
    (spells : List Char → Value → Prop) (position : Nat) : Prop :=
  (∃ token v next, spells token v ∧ TokenAt options input position token next ∧
    Derives [] input (.whole c) position (.ok (.success v next)) []) ∨
  Task.Misses [] input (.whole c) position [⟨position, label⟩] ∧
    ∀ token v next, spells token v → ¬ TokenAt options input position token next

theorem silent_lexeme (h : g.Silent) : (lexeme options g).Silent := by
  unfold lexeme
  split
  · refine ⟨⟨rfl, rfl⟩, ⟨rfl, rfl⟩, h, ⟨⟨rfl, rfl⟩, rfl, rfl⟩, trivial⟩
  · exact h

/-- A token of the grammar decides if what it labels tells the texts that start with it. -/
theorem decides_token {spells : List Char → Value → Prop} (hs : g.Silent)
    (hat : Text.At input position text)
    (hm : ∀ token v, spells token v → Lexes text token →
      Matches [] input ⟨g, 0, ρ⟩ position v (position + Text.byteLength token))
    (hf : (∀ token v, spells token v → ¬ Lexes text token) →
      Fails [] input ⟨g, 0, ρ⟩ position) :
    Decides options input ⟨.labelled label (lexeme options g), 0, ρ⟩ label spells position := by
  by_cases h : ∃ token v, spells token v ∧ Lexes text token
  · obtain ⟨token, v, hv, hl⟩ := h
    obtain ⟨_, _, rest, -, rfl⟩ := hl.exists_cons
    obtain ⟨gap, rest, rfl, hg, hr⟩ := exists_gap options rest
    have hmatch := matches_lexeme (hm token v hv hl) hat.append hg hr
    refine .inl ⟨token, v, _, hv, ⟨gap, rest, hat, hl, hg, hr, rfl⟩, ?_⟩
    rw [Text.byteLength_append, ← Nat.add_assoc]
    exact hmatch.derives_labelled (silent_lexeme hs)
  · have hnone : ∀ token v, spells token v → ¬ Lexes text token :=
      fun token v hv hl => h ⟨token, v, hv, hl⟩
    refine .inr ⟨(fails_lexeme (hf hnone)).misses_labelled (silent_lexeme hs), ?_⟩
    exact fun token v next hv ht => hnone token v hv (ht.lexes hat)

/-- The numbers with at most 64 bits. -/
def spellsNumber (token : List Char) (v : Value) : Prop :=
  ∃ n : Nat, (n : Int) ≤ Text.maxInt64 ∧ token = Text.digits n ∧ v = .num n

theorem decides_number (options : CalcOptions) (ρ : List (String × Closure))
    (hat : Text.At input position text) :
    Decides options input ⟨number options, 0, ρ⟩ "number" spellsNumber position := by
  refine decides_token ⟨⟨rfl, rfl⟩, rfl, rfl⟩ hat ?_ ?_
  · rintro _ _ ⟨n, hn, rfl, rfl⟩ hl
    obtain ⟨hm, -⟩ := Lexes.digits_iff.1 hl
    obtain ⟨-, rest, rfl⟩ := numeral_of_match? hm
    exact matches_numberToken_iff.2 ⟨n, rest, hat, hm, hn, rfl, rfl⟩
  · intro hnone
    cases hm : numberMatcher.match? text with
    | none => exact fails_tryTransform (fails_pattern compile?_numberPattern hat hm)
    | some digits =>
      -- There are digits, but their value has more than 64 bits.
      obtain ⟨n, rfl, -⟩ := Lexes.exists_digits hm
      obtain ⟨-, rest, rfl⟩ := numeral_of_match? hm
      have hn : ¬ (n : Int) ≤ Text.maxInt64 := fun hn =>
        hnone _ _ ⟨n, hn, rfl, rfl⟩ (Lexes.digits_iff.2 ⟨hm, hn⟩)
      have hpattern : Matches [] input ⟨.pattern numberPattern false, 0, ρ⟩ position _ _ :=
        (matches_pattern_iff compile?_numberPattern).2 ⟨_, rest, hat, hm, rfl, rfl⟩
      obtain ⟨failures, hd⟩ := hpattern
      refine ⟨_, failures, .reshapes (.tryTransform_none ?_) hd, rfl⟩
      rw [numberValue?_digits, if_neg hn]

/-- The operators. -/
def spellsOperator (token : List Char) (v : Value) : Prop :=
  ∃ op : Operator, token = [op.symbol] ∧ v = op.toValue

theorem decides_operator (options : CalcOptions) (ρ : List (String × Closure))
    (hat : Text.At input position text) :
    Decides options input ⟨operator options, 0, ρ⟩ "operator" spellsOperator position := by
  refine decides_token ⟨rfl, rfl⟩ hat ?_ ?_
  · rintro _ _ ⟨op, rfl, rfl⟩ hl
    obtain ⟨_, _, rest, -, rfl⟩ := hl.exists_cons
    refine matches_charClass_iff.2
      ⟨op.symbol, rest, hat, mem_operators_iff.2 ⟨op, rfl⟩, rfl, ?_⟩
    rfl
  · intro hnone
    refine fails_charClass hat fun c hc hmem => ?_
    obtain ⟨op, rfl⟩ := mem_operators_iff.1 hmem
    exact hnone _ _ ⟨op, rfl, rfl⟩ (.operator op hc)

/-- A text on its own. -/
def spellsText (text : String) (token : List Char) (v : Value) : Prop :=
  token = text.toList ∧ v = .str text

theorem decides_literal {symbol : String} {c : Char} (hsymbol : symbol.toList = [c])
    (hlexes : text.head? = some c → Lexes text [c]) (hat : Text.At input position text) :
    Decides options input ⟨.labelled label (lexeme options (.literal symbol)), 0, ρ⟩ label
      (spellsText symbol) position := by
  refine decides_token ⟨rfl, rfl⟩ hat ?_ ?_
  · rintro _ _ ⟨rfl, rfl⟩ hl
    obtain ⟨_, _, rest, -, rfl⟩ := hl.exists_cons
    exact matches_literal_iff.2 ⟨rest, hat, rfl, rfl⟩
  · intro hnone
    refine fails_of_recognizes (.literal_fails fun rest hat' => ?_) rfl
    obtain rfl := hat.unique hat'
    refine hnone _ _ ⟨rfl, rfl⟩ ?_
    rw [hsymbol] at hlexes ⊢
    exact hlexes rfl

theorem decides_opening (options : CalcOptions) (ρ : List (String × Closure))
    (hat : Text.At input position text) :
    Decides options input ⟨opening options, 0, ρ⟩ "'('" (spellsText "(") position :=
  decides_literal rfl .opening hat

theorem decides_closing (options : CalcOptions) (ρ : List (String × Closure))
    (hat : Text.At input position text) :
    Decides options input ⟨closing options, 0, ρ⟩ "')'" (spellsText ")") position :=
  decides_literal rfl .closing hat

end

end Descent.Calc
