import Descent.Calc.Grammar
import Descent.Proofs.Meaning.Leaves
import Descent.Proofs.Parser.Depth
import Descent.Proofs.Text.Numeral

/-!
# Numbers

The pattern of the calculator's numbers matches the longest numeral without leading zeros
(`numeral_of_match?`, `match?_numeral`): a zero alone, or all digits from one that is not zero on.
`ReadsNumber` says what the number token of the grammar makes of a text: the numeral that the
pattern matches is never cut short, so where its value has more than 64 bits the token fails
(`numberToken_takes_all_digits`).
-/

namespace Descent.Calc

open Pattern (Program Instruction)

/-- The program of the pattern of numbers. -/
def numberProgram : Program where
  code := #[.split 1 4, .chars ⟨[(49, 57)]⟩ 2, .split 3 5, .chars ⟨[(48, 57)]⟩ 2,
    .chars ⟨[(48, 57)]⟩ 5, .accept]

/-- The pattern of numbers. -/
def numberMatcher : Pattern := ⟨numberPattern, false, numberProgram⟩

theorem compile?_numberPattern : Pattern.compile? numberPattern false = some numberMatcher := by
  rfl

/-! ## Searching -/

section
variable (before? after? : Option Char)

theorem arrive_start : numberProgram.arrive before? after? [0] = [1, 4] := by
  rfl

theorem arrive_digits : numberProgram.arrive before? after? [2] = [3, 5] := by
  rfl

end

theorem contains_digits (c : Char) : CharSet.contains ⟨[(48, 57)]⟩ c = c.isDigit := by
  rw [Bool.eq_iff_iff, Text.isDigit_iff]
  simp [CharSet.contains]

theorem contains_nonzero (c : Char) :
    CharSet.contains ⟨[(49, 57)]⟩ c = (c.isDigit && c != '0') := by
  rw [Bool.eq_iff_iff, Bool.and_eq_true, bne_iff_ne, Text.isDigit_iff, Ne, ← Char.toNat_inj]
  have : '0'.toNat = 48 := rfl
  simp only [CharSet.contains, List.any_cons, List.any_nil, Bool.or_false, Bool.and_eq_true,
    decide_eq_true_eq]
  omega

theorem step_digits (c : Char) :
    numberProgram.step c [3] = if c.isDigit then [2] else [] := by
  rw [← contains_digits]
  cases h : CharSet.contains ⟨[(48, 57)]⟩ c <;>
    simp [Program.step, Program.at?, numberProgram, h]

theorem step_start (c : Char) :
    numberProgram.step c [1, 4] =
      if c = '0' then [5] else if c.isDigit then [2, 5] else [] := by
  have h0 : '0'.isDigit = true := rfl
  have h := contains_digits c
  have h' := contains_nonzero c
  by_cases hz : c = '0'
  · subst hz
    simp [Program.step, Program.at?, numberProgram, h, h', h0]
  · cases hc : c.isDigit <;> simp [Program.step, Program.at?, numberProgram, h, h', hc, hz]

/-- After a digit that is not zero, all digits are taken. -/
theorem search_digits (cs : List Char) (consumed : Nat) (best? : Option Nat) :
    numberProgram.search [3, 5] consumed best? cs =
      some (consumed + (cs.takeWhile Char.isDigit).length) := by
  induction cs generalizing consumed best? with
  | nil => rfl
  | cons c cs ih =>
    have hlive : ([3, 5].takeWhile fun state => !numberProgram.accepts state) = [3] := rfl
    rw [Program.search, hlive, step_digits]
    cases hc : c.isDigit with
    | true =>
      simp only [if_true, arrive_digits]
      rw [ih, List.takeWhile_cons_of_pos hc, List.length_cons]
      congr 1
      omega
    | false =>
      rw [List.takeWhile_cons_of_neg (by simp [hc])]
      rfl

/-- After a zero, nothing more is taken. -/
theorem search_accept (cs : List Char) (consumed : Nat) (best? : Option Nat) :
    numberProgram.search [5] consumed best? cs = some consumed := by
  cases cs <;> rfl

/-! ## Matches -/

theorem matchLength?_cons (c : Char) (cs : List Char) :
    numberProgram.matchLength? (c :: cs) =
      if c = '0' then some 1
      else if c.isDigit then some (1 + (cs.takeWhile Char.isDigit).length) else none := by
  have hlive : ([1, 4].takeWhile fun state => !numberProgram.accepts state) = [1, 4] := rfl
  rw [Program.matchLength?, arrive_start, Program.search, hlive, step_start]
  by_cases hz : c = '0'
  · rw [if_pos hz, if_pos hz]
    exact search_accept cs 1 none
  · rw [if_neg hz, if_neg hz]
    cases hc : c.isDigit with
    | true => exact search_digits cs 1 none
    | false => rfl

/-- What the pattern matches is a numeral at the start of the text. -/
theorem numeral_of_match? {cs text : List Char} (h : numberMatcher.match? cs = some text) :
    Text.Numeral text ∧ ∃ rest, cs = text ++ rest := by
  obtain ⟨n, hn, rfl⟩ := Option.map_eq_some_iff.1 h
  refine ⟨?_, cs.drop n, (List.take_append_drop n cs).symm⟩
  change numberProgram.matchLength? cs = some n at hn
  cases cs with
  | nil => cases hn
  | cons c cs =>
    rw [matchLength?_cons] at hn
    split at hn
    · rename_i hz
      cases hn
      exact .mk (by rw [hz]; rfl) (fun _ hd => nomatch hd) fun _ => rfl
    · rename_i hz
      split at hn
      · rename_i hc
        cases hn
        rw [Nat.add_comm, List.take_succ_cons]
        refine .mk hc (fun d hd => ?_) fun h => absurd h hz
        rw [← List.prefix_iff_eq_take.1 (List.takeWhile_prefix _)] at hd
        exact List.all_eq_true.1 List.all_takeWhile d hd
      · cases hn

/-- All of the front is taken, and nothing where the rest does not go on. -/
theorem takeWhile_append_stops {α : Type} {p : α → Bool} {front rest : List α}
    (hf : ∀ a ∈ front, p a = true) (hr : ∀ a ∈ rest.head?, p a = false) :
    (front ++ rest).takeWhile p = front := by
  rw [List.takeWhile_append_of_pos hf]
  cases rest with
  | nil => simp
  | cons a rest => rw [List.takeWhile_cons_of_neg (by simp [hr a rfl]), List.append_nil]

/-- Each list starts with items that have the property, up to one that has not. -/
theorem exists_append_stops {α : Type} (p : α → Bool) (items : List α) :
    ∃ front rest, items = front ++ rest ∧ (∀ a ∈ front, p a = true) ∧
      ∀ a ∈ rest.head?, p a = false := by
  refine ⟨items.takeWhile p, items.dropWhile p, List.takeWhile_append_dropWhile.symm,
    fun a ha => List.all_eq_true.1 List.all_takeWhile a ha, fun a ha => ?_⟩
  have hstop := List.head?_dropWhile_not p items
  rw [ha] at hstop
  exact hstop

/-- A numeral is matched where no digit follows. -/
theorem match?_numeral {text rest : List Char} (h : Text.Numeral text)
    (hrest : ∀ c ∈ rest.head?, c.isDigit = false) :
    numberMatcher.match? (text ++ rest) = some text := by
  cases h with
  | @mk c cs hc hcs hz =>
    have hlength : numberProgram.matchLength? (c :: (cs ++ rest)) = some (1 + cs.length) := by
      rw [matchLength?_cons]
      by_cases h0 : c = '0'
      · rw [if_pos h0, hz h0]
        rfl
      · rw [if_neg h0, if_pos hc, takeWhile_append_stops hcs hrest]
    change (numberProgram.matchLength? (c :: (cs ++ rest))).map _ = _
    rw [hlength, Option.map_some, Nat.add_comm, List.cons_append, List.take_succ_cons,
      List.take_left]

/-- A zero is matched alone, whatever follows it. -/
theorem match?_zero (rest : List Char) : numberMatcher.match? ('0' :: rest) = some ['0'] := by
  change (numberProgram.matchLength? ('0' :: rest)).map _ = _
  rw [matchLength?_cons, if_pos rfl]
  rfl

/-- Without a digit there is no match. -/
theorem match?_eq_none {cs : List Char} (h : ∀ c ∈ cs.head?, c.isDigit = false) :
    numberMatcher.match? cs = none := by
  change (numberProgram.matchLength? cs).map _ = none
  cases cs with
  | nil => rfl
  | cons c cs =>
    have hc : c.isDigit = false := h c rfl
    have hz : c ≠ '0' := by
      rintro rfl
      cases hc
    rw [matchLength?_cons, if_neg hz, hc]
    rfl

/-! ## Values -/

theorem numberValue?_digits (n : Nat) :
    numberValue? (.ofChars (Text.digits n)) =
      if (n : Int) ≤ Text.maxInt64 then some (.num n) else none := by
  rw [Value.ofChars, numberValue?, String.toList_ofList, Text.int64?_digits]
  split <;> rfl

theorem numberValue?_numeral {text : List Char} (h : Text.Numeral text) :
    numberValue? (.ofChars text) =
      if (Text.valueOfDigits text : Int) ≤ Text.maxInt64 then
        some (.num (Text.valueOfDigits text))
      else none := by
  have hvalue := numberValue?_digits (Text.valueOfDigits text)
  rwa [h.digits_value] at hvalue

/-! ## The token -/

/-- The number of the grammar, without its label and the blanks behind it. -/
def numberToken : Grammar := .tryTransform numberValue? (.pattern numberPattern false)

/-- What the definition of the token is built to. -/
def numberParser : Parser := .tryTransform numberValue? (.pattern numberMatcher)

theorem number_eq (options : CalcOptions) :
    number options = .labelled "number" (lexeme options numberToken) := rfl

theorem build_numberToken (rules : Rules) (scope : Scope) (store : Store) :
    numberToken.build rules scope store = (.ok numberParser, store) := by
  simp only [numberToken, Grammar.build, Grammar.buildWith, Grammar.wrap, compile?_numberPattern,
    Grammar.andThen, numberParser]

/-- `run` is the longest run of digits at the start of the text. -/
def LeadingDigits (text run : List Char) : Prop :=
  ∃ rest, text = run ++ rest ∧ (∀ c ∈ run, c.isDigit = true) ∧ ∀ c ∈ rest.head?, c.isDigit = false

/-- What the number token comes to at a position where the input goes on with the text. -/
inductive ReadsNumber (text : List Char) (position : Nat) : Outcome Value → Prop
  /-- A zero is a number alone, whatever follows it. -/
  | zero : text.head? = some '0' →
      ReadsNumber text position (.success (Atom.number 0).toValue (position + 1))
  /-- From another digit on, the whole run of digits is taken. -/
  | fits {first : Char} {more : List Char} : LeadingDigits text (first :: more) → first ≠ '0' →
      (Text.valueOfDigits (first :: more) : Int) ≤ Text.maxInt64 →
      ReadsNumber text position
        (.success (Atom.number (Text.valueOfDigits (first :: more))).toValue
          (position + Text.byteLength (first :: more)))
  /-- No part of the run is taken where its value has more than 64 bits. -/
  | tooLarge {first : Char} {more : List Char} : LeadingDigits text (first :: more) → first ≠ '0' →
      Text.maxInt64 < Text.valueOfDigits (first :: more) →
      ReadsNumber text position (.failure position)
  | noDigit : (∀ c ∈ text.head?, c.isDigit = false) → ReadsNumber text position (.failure position)

section
variable {input text run : List Char} {position : Nat} {o : Outcome Value}

/-- A run that does not start with a zero is a numeral, and the pattern matches all of it. -/
theorem LeadingDigits.match? {first : Char} {more : List Char}
    (h : LeadingDigits text (first :: more)) (h0 : first ≠ '0') :
    Text.Numeral (first :: more) ∧ numberMatcher.match? text = some (first :: more) := by
  obtain ⟨rest, rfl, hd, hrest⟩ := h
  obtain ⟨hfirst, hmore⟩ := List.forall_mem_cons.1 hd
  have hnumeral : Text.Numeral (first :: more) := .mk hfirst hmore fun h => absurd h h0
  exact ⟨hnumeral, match?_numeral hnumeral hrest⟩

/-- Each text is read in one of these ways. -/
theorem exists_readsNumber (text : List Char) (position : Nat) :
    ∃ o, ReadsNumber text position o := by
  cases text with
  | nil => exact ⟨_, .noDigit nofun⟩
  | cons c cs =>
    by_cases h0 : c = '0'
    · subst h0
      exact ⟨_, .zero rfl⟩
    by_cases hc : c.isDigit = true
    · obtain ⟨more, rest, rfl, hmore, hrest⟩ := exists_append_stops Char.isDigit cs
      have hrun : LeadingDigits (c :: (more ++ rest)) (c :: more) :=
        ⟨rest, rfl, List.forall_mem_cons.2 ⟨hc, hmore⟩, hrest⟩
      by_cases hfits : (Text.valueOfDigits (c :: more) : Int) ≤ Text.maxInt64
      · exact ⟨_, .fits hrun h0 hfits⟩
      · exact ⟨_, .tooLarge hrun h0 (by omega)⟩
    · exact ⟨_, .noDigit (by simpa using hc)⟩

/-! ### Outcomes -/

/-- What the token comes to at a position of the input. -/
def numberOutcome (input : List Char) (position : Nat) : Outcome Value :=
  Parser.tryTransformOutcome numberValue? position
    (Parser.matchPattern numberMatcher input position)

theorem invoke_numberParser (store : Store) :
    numberParser.invoke input position store = some (.ok (numberOutcome input position), store) :=
  Parser.invoke_eq_some_iff.2 ⟨2, rfl⟩

theorem numberOutcome_of_match? (hat : Text.At input position text) (hn : Text.Numeral run)
    (hm : numberMatcher.match? text = some run) :
    numberOutcome input position =
      if (Text.valueOfDigits run : Int) ≤ Text.maxInt64 then
        .success (.num (Text.valueOfDigits run)) (position + Text.byteLength run)
      else .failure position := by
  unfold numberOutcome Parser.matchPattern
  rw [Text.suffixAt?_eq_some_iff.2 hat, Option.bind_some, hm]
  simp only [Parser.tryTransformOutcome, numberValue?_numeral hn]
  by_cases hfits : (Text.valueOfDigits run : Int) ≤ Text.maxInt64
  · rw [if_pos hfits, if_pos hfits]
  · rw [if_neg hfits, if_neg hfits]

theorem numberOutcome_of_match?_eq_none (hat : Text.At input position text)
    (hm : numberMatcher.match? text = none) : numberOutcome input position = .failure position := by
  unfold numberOutcome Parser.matchPattern
  rw [Text.suffixAt?_eq_some_iff.2 hat, Option.bind_some, hm]
  rfl

theorem ReadsNumber.eq_numberOutcome (hat : Text.At input position text)
    (h : ReadsNumber text position o) : o = numberOutcome input position := by
  cases h with
  | zero hzero =>
    obtain ⟨rest, rfl⟩ := List.head?_eq_some_iff.1 hzero
    have hnumeral : Text.Numeral ['0'] := .mk rfl nofun fun _ => rfl
    rw [numberOutcome_of_match? hat hnumeral (match?_zero rest)]
    rfl
  | fits hrun h0 hfits =>
    obtain ⟨hnumeral, hm⟩ := hrun.match? h0
    rw [numberOutcome_of_match? hat hnumeral hm, if_pos hfits]
    rfl
  | tooLarge hrun h0 hlarge =>
    obtain ⟨hnumeral, hm⟩ := hrun.match? h0
    rw [numberOutcome_of_match? hat hnumeral hm, if_neg (by omega)]
  | noDigit hnone => rw [numberOutcome_of_match?_eq_none hat (match?_eq_none hnone)]

theorem readsNumber_iff (hat : Text.At input position text) :
    ReadsNumber text position o ↔ o = numberOutcome input position := by
  constructor
  · exact fun h => h.eq_numberOutcome hat
  · rintro rfl
    obtain ⟨o, h⟩ := exists_readsNumber text position
    rwa [← h.eq_numberOutcome hat]

end

/-- The number token of the grammar takes a zero alone, and from any other digit on the whole run of
digits if its value has at most 64 bits. In all other cases it fails where it was invoked. It always
comes to an end, records nothing and leaves the store as it was. -/
theorem numberToken_takes_all_digits :
    (∀ options, number options = .labelled "number" (lexeme options numberToken)) ∧
      ∃ parser,
        (∀ rules scope store, numberToken.build rules scope store = (.ok parser, store)) ∧
        ∀ input position text, Text.At input position text →
          ∃ outcome, (∀ o, ReadsNumber text position o ↔ o = outcome) ∧
            ∀ store, parser.invoke input position store = some (.ok outcome, store) := by
  refine ⟨number_eq, numberParser, build_numberToken, fun input position text hat => ?_⟩
  exact ⟨numberOutcome input position, fun o => readsNumber_iff hat, invoke_numberParser⟩

/-- The greatest number before a digit of another script, and the number after it. -/
theorem numberToken_takes_all_digits_limit :
    ∃ parser, (∀ rules scope store, numberToken.build rules scope store = (.ok parser, store)) ∧
      (∀ store, parser.invoke "(9223372036854775807٣".toList 1 store =
        some (.ok (.success (.num 9223372036854775807) 20), store)) ∧
      ∀ store, parser.invoke "-9223372036854775808".toList 1 store =
        some (.ok (.failure 1), store) := by
  obtain ⟨-, parser, hbuild, htakes⟩ := numberToken_takes_all_digits
  refine ⟨parser, hbuild, ?_, ?_⟩
  · have hat : Text.At "(9223372036854775807٣".toList 1 "9223372036854775807٣".toList :=
      ⟨['('], by decide +kernel, rfl⟩
    have hrun : LeadingDigits "9223372036854775807٣".toList
        ('9' :: "223372036854775807".toList) :=
      ⟨['٣'], by decide +kernel, List.all_eq_true.1 (by decide), by rintro _ ⟨⟩; rfl⟩
    have hvalue : Text.valueOfDigits ('9' :: "223372036854775807".toList) =
        9223372036854775807 := by decide +kernel
    have hlength : Text.byteLength ('9' :: "223372036854775807".toList) = 19 := by decide +kernel
    have hfits := @ReadsNumber.fits _ 1 _ _ hrun (by decide)
    rw [hvalue, hlength] at hfits
    obtain ⟨outcome, hreads, hinvoke⟩ := htakes _ _ _ hat
    rw [← (hreads _).1 (hfits (by decide))] at hinvoke
    exact hinvoke
  · have hat : Text.At "-9223372036854775808".toList 1 "9223372036854775808".toList :=
      ⟨['-'], rfl, rfl⟩
    have hrun : LeadingDigits "9223372036854775808".toList
        ('9' :: "223372036854775808".toList) := ⟨[], rfl, List.all_eq_true.1 (by decide), nofun⟩
    have hvalue : Text.valueOfDigits ('9' :: "223372036854775808".toList) =
        9223372036854775808 := by decide +kernel
    have hlarge := @ReadsNumber.tooLarge _ 1 _ _ hrun (by decide)
    rw [hvalue] at hlarge
    obtain ⟨outcome, hreads, hinvoke⟩ := htakes _ _ _ hat
    rw [← (hreads _).1 (hlarge (by decide))] at hinvoke
    exact hinvoke

end Descent.Calc
