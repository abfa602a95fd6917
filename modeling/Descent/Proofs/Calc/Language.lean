import Descent.Calc.Calculator
import Descent.Proofs.Calc.Reads
import Descent.Proofs.Meaning.Reading

/-!
# The language of the calculator

The grammar matches the text of each tree with numbers in range, where what follows cannot be taken
for more of it (`Expr.matches_expression`). With the other direction, the calculator parses exactly
the texts of such trees.
-/

namespace Descent.Calc

section
variable {options : CalcOptions} {input : List Char} {position next : Nat} {v : Value}

/-! ## What surrounds a token -/

/-- What follows an expression: its end, or that of the group it is in. -/
def Closes (rest : List Char) : Prop := ∀ c ∈ rest.head?, c = ')'

/-- What follows an atom. -/
def Stops (rest : List Char) : Prop := ∀ c ∈ rest.head?, c = ')' ∨ ∃ op : Operator, c = op.symbol

/-- How the text of an atom starts. -/
def Opens (text : List Char) : Prop := ∃ c cs, text = c :: cs ∧ (c = '(' ∨ c.isDigit = true)

theorem Operator.isDigit_symbol (op : Operator) : op.symbol.isDigit = false := by
  cases op <;> decide

theorem Operator.not_blank_symbol (op : Operator) : ¬ Blank op.symbol := by
  cases op <;> decide

theorem Operator.symbol_ne_closing (op : Operator) : op.symbol ≠ ')' := by
  cases op <;> decide

theorem Blank.isDigit {c : Char} (h : Blank c) : c.isDigit = false := by
  obtain rfl | rfl | rfl | rfl := h <;> rfl

theorem Closes.stops {rest : List Char} (h : Closes rest) : Stops rest :=
  fun c hc => .inl (h c hc)

theorem Stops.settled {rest : List Char} (h : Stops rest) : Settled options rest := by
  intro c hc _ hb
  obtain rfl | ⟨op, rfl⟩ := h c hc
  · exact absurd hb (by decide)
  · exact op.not_blank_symbol hb

theorem Stops.isDigit {gap rest : List Char} (h : Stops rest) (hg : Gap options gap) :
    ∀ c ∈ (gap ++ rest).head?, c.isDigit = false := by
  intro c hc
  cases gap with
  | nil =>
    obtain rfl | ⟨op, rfl⟩ := h c hc
    · rfl
    · exact op.isDigit_symbol
  | cons b gap =>
    obtain rfl := Option.some.inj hc
    exact (hg _ List.mem_cons_self).2.isDigit

theorem Opens.append {text : List Char} (h : Opens text) (rest : List Char) :
    Opens (text ++ rest) := by
  obtain ⟨c, cs, rfl, hc⟩ := h
  exact ⟨c, cs ++ rest, rfl, hc⟩

theorem Opens.settled {text : List Char} (h : Opens text) : Settled options text := by
  obtain ⟨c, cs, rfl, hc⟩ := h
  intro c' hc' _ hb
  obtain rfl := Option.some.inj hc'
  obtain rfl | hd := hc
  · exact absurd hb (by decide)
  · rw [hb.isDigit] at hd
    cases hd

/-! ## How texts start -/

theorem opens_digits (n : Nat) : Opens (Text.digits n) := by
  have hn := Text.numeral_digits n
  generalize Text.digits n = cs at hn
  cases hn with
  | mk hc _ _ => exact ⟨_, _, rfl, .inr hc⟩

theorem Atom.opens {a : Atom} {text : List Char} (hr : a.InRange)
    (ht : Trailing options a.tokens text) : Opens text := by
  cases a with
  | number n =>
    obtain ⟨gap, rfl, -⟩ := trailing_singleton_iff.1 ht
    obtain ⟨n, rfl⟩ := Int.eq_ofNat_of_zero_le hr.1
    exact (opens_digits n).append gap
  | group inner =>
    obtain _ | ⟨-, -⟩ := ht
    exact ⟨_, _, rfl, .inl rfl⟩

theorem Expr.opens {e : Expr} {text : List Char} (hr : e.InRange)
    (ht : Trailing options e.tokens text) : Opens text := by
  obtain ⟨first, rest⟩ := e
  obtain ⟨front, text, rfl, hf, -⟩ := trailing_append_iff.1 ht
  exact (Atom.opens hr.1 hf).append text

/-- An atom of an expression is followed by an operator, or by what follows the expression. -/
theorem stops_restTokens {rest : List (Operator × Atom)} {text following : List Char}
    (ht : Trailing options (restTokens rest) text) (hf : Closes following) :
    Stops (text ++ following) := by
  cases rest with
  | nil =>
    cases ht
    exact hf.stops
  | cons pair rest =>
    obtain ⟨op, a⟩ := pair
    obtain _ | ⟨-, -⟩ := ht
    rintro c ⟨⟩
    exact .inr ⟨op, rfl⟩

/-! ## The text of a tree is matched -/

mutual

/-- The text of an atom is matched where nothing that follows could be more of it. -/
theorem Atom.matches_atom : ∀ (a : Atom) {text rest : List Char} {position : Nat}, a.InRange →
    Trailing options a.tokens text → Stops rest → Text.At input position (text ++ rest) →
    Matches [] input (atomMeaning options) position a.toValue (position + Text.byteLength text)
  | .number n, text, rest, position, hr, ht, hs, hat => by
    obtain ⟨gap, rfl, hg⟩ := trailing_singleton_iff.1 ht
    obtain ⟨n, rfl⟩ := Int.eq_ofNat_of_zero_le hr.1
    rw [List.append_assoc] at hat
    exact matches_choice_iff.2 (.here (matches_number hr.2 hat hg hs.settled (hs.isDigit hg)))
  | .group inner, text, rest, position, hr, ht, hs, hat => by
    obtain _ | @⟨_, gap, _, _, hg, ht⟩ := ht
    obtain ⟨body, text, rfl, hb, ht⟩ := trailing_append_iff.1 ht
    obtain ⟨gap', rfl, hg'⟩ := trailing_singleton_iff.1 ht
    have hat₀ : Text.At input position
        ((['('] ++ gap) ++ (body ++ (([')'] ++ gap') ++ rest))) := by simpa using hat
    have hat₁ := hat₀.append
    have hat₂ := hat₁.append
    rw [List.append_assoc] at hat₀ hat₂
    have hopen : Matches [] input ⟨opening options, 0, atomScope options⟩ _ _ _ :=
      matches_token hat₀ hg ((Expr.opens hr hb).append _).settled
    have hinner := Expr.matches_expression inner hr hb (by rintro c ⟨⟩; rfl) hat₁
    have hclose : Matches [] input ⟨closing options, 0, atomScope options⟩ _ _ _ :=
      matches_token hat₂ hg' hs.settled
    -- The choice tries a number first.
    have hnumber : Fails [] input ⟨number options, 0, atomScope options⟩ position :=
      fails_number hat (by rintro c ⟨⟩; rfl)
    have hlast : position + Text.byteLength (['('] ++ (gap ++ (body ++ ([')'] ++ gap')))) =
        position + Text.byteLength (['('] ++ gap) + Text.byteLength body +
          Text.byteLength ([')'] ++ gap') := by
      simp only [Text.byteLength_append, Nat.add_assoc]
    rw [hlast]
    exact matches_choice_iff.2 (.there hnumber
      (.here (matches_group_iff.2 ⟨_, _, _, _, hopen, hinner, hclose⟩)))

/-- The text of a tree is matched where nothing that follows could be more of it. -/
theorem Expr.matches_expression : ∀ (e : Expr) {text rest : List Char} {position : Nat},
    e.InRange → Trailing options e.tokens text → Closes rest →
    Text.At input position (text ++ rest) →
    Matches [] input (expressionMeaning options) position e.toValue
      (position + Text.byteLength text)
  | .mk first pairs, text, rest, position, hr, ht, hc, hat => by
    obtain ⟨front, text, rfl, hf, ht⟩ := trailing_append_iff.1 ht
    rw [List.append_assoc] at hat
    rw [Text.byteLength_append, ← Nat.add_assoc]
    exact matches_expression_iff.2 ⟨_, _, _,
      Atom.matches_atom first hr.1 hf (stops_restTokens ht hc) hat,
      iterates_pairs pairs hr.2 ht hc hat.append, (treeValue_pairs first pairs).symm⟩

theorem iterates_pairs : ∀ (pairs : List (Operator × Atom)) {text rest : List Char}
    {position : Nat}, restInRange pairs → Trailing options (restTokens pairs) text → Closes rest →
    Text.At input position (text ++ rest) →
    Iterates [] input (pairMeaning options) position (pairs.map pairValue)
      (position + Text.byteLength text)
  | [], text, rest, position, _, ht, hc, hat => by
    cases ht
    refine .stop (fails_sequence_cons (fails_operator hat fun c h op => ?_))
    rw [hc c h]
    exact op.symbol_ne_closing.symm
  | (op, a) :: pairs, text, rest, position, hr, ht, hc, hat => by
    obtain _ | @⟨_, gap, _, _, hg, ht⟩ := ht
    obtain ⟨front, text, rfl, hf, ht⟩ := trailing_append_iff.1 ht
    have hat₀ : Text.At input position
        (([op.symbol] ++ gap) ++ (front ++ (text ++ rest))) := by simpa using hat
    have hat₁ := hat₀.append
    rw [List.append_assoc] at hat₀
    have hop : Matches [] input ⟨operator options, 0, bodyScope options⟩ _ _ _ :=
      matches_operator hat₀ hg ((Atom.opens hr.1 hf).append _).settled
    have hatom := Atom.matches_atom a hr.1 hf (stops_restTokens ht hc) hat₁
    have hpairs := iterates_pairs pairs hr.2 ht hc hat₁.append
    have hlast : position + Text.byteLength ([op.symbol] ++ (gap ++ (front ++ text))) =
        position + Text.byteLength ([op.symbol] ++ gap) + Text.byteLength front +
          Text.byteLength text := by
      simp only [Text.byteLength_append, Nat.add_assoc]
    have hpos := Char.utf8Size_pos op.symbol
    rw [hlast]
    refine .next (matches_pair_iff.2 ⟨_, _, _, hop, hatom, rfl⟩) ?_ hpairs
    rw [List.singleton_append, Text.byteLength_cons]
    omega

end

/-! ## Whole sources -/

/-- From a position to the end, an expression matches the texts of trees. -/
theorem matches_to_end_iff {rest : List Char} (hat : Text.At input position rest) :
    Matches [] input (expressionMeaning options) position v (Text.byteLength input) ↔
      ∃ e : Expr, v = e.toValue ∧ e.InRange ∧ Trailing options e.tokens rest := by
  constructor
  · intro h
    obtain ⟨e, rfl, hr, text, rest', hat', ht, hlast⟩ := reads_of_matches h
    obtain rfl := hat'.append.eq_length_iff.1 hlast.symm
    obtain rfl := hat.unique hat'
    rw [List.append_nil]
    exact ⟨e, rfl, hr, ht⟩
  · rintro ⟨e, rfl, hr, ht⟩
    rw [← List.append_nil rest] at hat
    rw [← hat.append.eq_length_iff.2 rfl]
    exact e.matches_expression hr ht (fun _ hc => by cases hc) hat

/-- The text of the tree, with blanks around its tokens where the options allow them. -/
def Writes (options : CalcOptions) (e : Expr) (source : List Char) : Prop :=
  if options.allowWhitespace then Spaced e.tokens source else source = e.render

theorem matches_grammar_iff :
    Matches [] input ⟨grammar options, 0, []⟩ 0 v (Text.byteLength input) ↔
      ∃ e : Expr, v = e.toValue ∧ e.InRange ∧ Writes options e input := by
  cases ho : options.allowWhitespace with
  | false =>
    rw [grammar, ho, if_neg Bool.false_ne_true]
    refine (matches_to_end_iff (Text.At.start input)).trans (exists_congr fun e => ?_)
    rw [trailing_iff_flatten ho, e.flatten_tokens, Writes, ho, if_neg Bool.false_ne_true]
  | true =>
    simp only [grammar, Writes, ho, if_true]
    rw [matches_transform_iff]
    constructor
    · rintro ⟨_, hs, rfl⟩
      obtain ⟨_, mid, _, hb, he, rfl⟩ := matches_both_iff.1 hs
      obtain ⟨us, rfl, hi⟩ := matches_many_iff.1 hb
      obtain ⟨gap, rest, rfl, hg, rfl⟩ := exists_gap_of_iterates hi (Text.At.start input)
      obtain ⟨e, hv, hr, ht⟩ := (matches_to_end_iff (Text.At.start (gap ++ rest)).append).1 he
      exact ⟨e, hv, hr, (spaced_iff ho).2 ⟨gap, rest, rfl, hg, ht⟩⟩
    · rintro ⟨e, rfl, hr, h⟩
      obtain ⟨gap, rest, rfl, hg, ht⟩ := (spaced_iff ho).1 h
      have hat := Text.At.start (gap ++ rest)
      have hsettled : Settled options rest := (Expr.opens hr ht).settled
      obtain ⟨us, hi⟩ := exists_iterates_of_gap hat hg fun c hc => hsettled c hc ho
      have hb := matches_many_iff.2 ⟨us, rfl, hi⟩
      have he := (matches_to_end_iff hat.append).2 ⟨e, rfl, hr, ht⟩
      exact ⟨_, matches_both_iff.2 ⟨_, _, _, hb, he, rfl⟩, rfl⟩

end

/-! ## Calculators -/

theorem fault_grammar (options : CalcOptions) : (grammar options).fault [] = none := by
  obtain ⟨allowWhitespace⟩ := options
  cases allowWhitespace <;> rfl

namespace Calculator

/-- A calculator can be built, and its reader has the meaning of its grammar. -/
theorem exists_new (options : CalcOptions) (readerOptions : ReaderOptions) :
    ∃ calculator L, new options readerOptions = .ok calculator ∧
      calculator.reader.options = readerOptions ∧
      Built [] L [] calculator.reader.parser ⟨grammar options, 0, []⟩ ∧
      Sound [] [] L calculator.store := by
  have hf := Grammar.error?_build [] [] (grammar options) Store.empty
  rw [fault_grammar] at hf
  unfold new
  match hb : (grammar options).build [] [] Store.empty with
  | (.ok parser, store) =>
    obtain ⟨L, -, hs, hp⟩ :=
      Grammar.builds [] [] (grammar options) [] [] _ [] _ _ _ hb (sound_empty []) .nil
    exact ⟨_, L, rfl, rfl, hp, hs⟩
  | (.error error, store) =>
    rw [hb] at hf
    cases hf

/-- The calculator after it has parsed sources. -/
inductive Reaches : Calculator → Calculator → Prop
  | refl {a : Calculator} : Reaches a a
  | step {a b : Calculator} {source : List Char} {answer : Except ParseError Value}
      {store : Store} : Reaches a b → b.reader.parse source b.store = some (answer, store) →
      Reaches a ⟨b.reader, store⟩

theorem Reaches.exists_sound {a b : Calculator} {rules : Rules} {c : Closure} {L : Legend}
    (h : Reaches a b) (hb : Built rules L [] a.reader.parser c) (hs : Sound rules [] L a.store) :
    b.reader = a.reader ∧
      ∃ L', Built rules L' [] b.reader.parser c ∧ Sound rules [] L' b.store := by
  induction h with
  | refl => exact ⟨rfl, L, hb, hs⟩
  | @step b source answer store _ hp ih =>
    obtain ⟨hr, L₁, hb₁, hs₁⟩ := ih
    obtain ⟨L', hL, hs'⟩ := (enacts_parse rfl source).keeps L₁ b.store answer store hb₁ hs₁ hp
    exact ⟨hr, L', hb₁.mono hL (List.Subset.refl _), hs'⟩

theorem parse_eq_ok_iff {calculator : Calculator} {source : List Char} {e : Expr} :
    calculator.parse source = some (.ok e) ↔ ∃ v,
      (∃ store, calculator.reader.parse source calculator.store = some (.ok v, store)) ∧
        Expr.ofValue? v = some e := by
  unfold parse
  split <;> rename_i h <;> simp [h]

/-- The calculator parses exactly its language, however it has been used before: a source has the
tree `e` just if all numbers in `e` are in range and the source is the text of `e`. -/
theorem parse_iff_writes (options : CalcOptions) :
    ∃ calculator₀, new options { requireComplete := true } = .ok calculator₀ ∧
      ∀ calculator, Reaches calculator₀ calculator → ∀ (source : List Char) (e : Expr),
        calculator.parse source = some (.ok e) ↔ e.InRange ∧ Writes options e source := by
  obtain ⟨calculator₀, L, hnew, ho, hb, hs⟩ := exists_new options { requireComplete := true }
  refine ⟨calculator₀, hnew, fun calculator hreach source e => ?_⟩
  obtain ⟨hr, L', hb', hs'⟩ := hreach.exists_sound hb hs
  have hcomplete : calculator.reader.options.requireComplete = true := by rw [hr, ho]
  simp only [parse_eq_ok_iff, Reader.parse_eq_ok_iff hb' hs' hcomplete, matches_grammar_iff]
  constructor
  · rintro ⟨_, ⟨e', rfl, hrange, hw⟩, he⟩
    obtain rfl := Option.some.inj (e'.ofValue?_toValue.symm.trans he)
    exact ⟨hrange, hw⟩
  · rintro ⟨hrange, hw⟩
    exact ⟨e.toValue, ⟨e, rfl, hrange, hw⟩, e.ofValue?_toValue⟩

/-- Blanks around the tokens of a source. -/
theorem parse_spaced_sum :
    ∃ calculator, new { allowWhitespace := true } { requireComplete := true } = .ok calculator ∧
      calculator.parse " 1 +\n2".toList =
        some (.ok (.mk (.number 1) [(.plus, .number 2)])) := by
  obtain ⟨calculator, hnew, h⟩ := parse_iff_writes { allowWhitespace := true }
  refine ⟨calculator, hnew, (h calculator .refl _ _).2 ⟨?_, ?_⟩⟩
  · exact ⟨⟨by decide, by decide⟩, ⟨by decide, by decide⟩, trivial⟩
  · have hspace : ∀ c ∈ [' '], Blank c := by simp [Blank]
    have hline : ∀ c ∈ ['\n'], Blank c := by simp [Blank]
    have hend : Spaced [] [] := .nil (by simp)
    have htwo : Spaced [['2']] "\n2".toList := .cons hline hend
    have hplus : Spaced [['+'], ['2']] " +\n2".toList := .cons hspace htwo
    exact .cons hspace hplus

end Calculator

end Descent.Calc
