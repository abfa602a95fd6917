import Descent.Proofs.Calc.Tree
import Descent.Proofs.Text.Numeral

/-!
# Beginnings of expressions

Which tokens may come next depends on those before only through a `Need`: whether an atom or an
operator is wanted, and how many parentheses are open. `TakesAll` follows the needs over tokens. The
tokens that lead from an atom to where nothing more is needed are those of trees
(`takesAll_iff_tokens`), and all tokens that are wanted one after another are the beginnings of them
(`exists_takesAll_iff`).
-/

namespace Descent.Calc

/-- What is wanted next, with the number of parentheses that are open. -/
inductive Need where
  | atom (opened : Nat)
  | operator (opened : Nat)
deriving DecidableEq, Repr

namespace Need

/-- The same with one more parenthesis open around it. -/
def deeper : Need → Need
  | atom d => atom (d + 1)
  | operator d => operator (d + 1)

/-- The labels of the tokens that are wanted. -/
def labels : Need → List String
  | atom _ => ["number", "'('"]
  | operator 0 => ["operator"]
  | operator (_ + 1) => ["operator", "')'"]

/-- The shortest way to the end: an atom if one is wanted, and all parentheses closed. -/
def finish : Need → List (List Char)
  | atom d => Text.digits 0 :: List.replicate d [')']
  | operator d => List.replicate d [')']

/-- `need.Takes token need'`: the token is wanted, and after it `need'`. -/
inductive Takes : Need → List Char → Need → Prop
  | number {d n : Nat} : (n : Int) ≤ Text.maxInt64 → Takes (atom d) (Text.digits n) (operator d)
  | opening {d : Nat} : Takes (atom d) ['('] (atom (d + 1))
  | operator {d : Nat} (op : Operator) : Takes (operator d) [op.symbol] (atom d)
  | closing {d : Nat} : Takes (operator (d + 1)) [')'] (operator d)

/-- The tokens are wanted one after another. -/
inductive TakesAll : Need → List (List Char) → Need → Prop
  | nil {need : Need} : TakesAll need [] need
  | cons {need need' last : Need} {token : List Char} {tokens : List (List Char)} :
      need.Takes token need' → TakesAll need' tokens last → TakesAll need (token :: tokens) last

end Need

/-! ## Tokens are told apart -/

/-- A numeral is not a character that is no digit. -/
theorem digits_ne_singleton {n : Nat} {c : Char} (hc : c.isDigit = false) :
    Text.digits n ≠ [c] := by
  intro h
  have : c.isDigit = true := Text.isDigit_of_mem_digits (n := n) (by simp [h])
  simp [hc] at this

namespace Need

variable {need need' last last' : Need} {token : List Char} {tokens tokens' : List (List Char)}
  {d : Nat}

/-! ## One token -/

theorem takes_atom_iff : (atom d).Takes token need' ↔
    (∃ n : Nat, (n : Int) ≤ Text.maxInt64 ∧ token = Text.digits n ∧ need' = operator d) ∨
      token = ['('] ∧ need' = atom (d + 1) := by
  constructor
  · rintro (hn | _)
    · exact .inl ⟨_, hn, rfl, rfl⟩
    · exact .inr ⟨rfl, rfl⟩
  · rintro (⟨n, hn, rfl, rfl⟩ | ⟨rfl, rfl⟩)
    · exact .number hn
    · exact .opening

theorem takes_operator_iff : (operator d).Takes token need' ↔
    (∃ op : Operator, token = [op.symbol] ∧ need' = atom d) ∨
      token = [')'] ∧ ∃ d', d = d' + 1 ∧ need' = operator d' := by
  constructor
  · rintro (_ | _ | op | _)
    · exact .inl ⟨op, rfl, rfl⟩
    · exact .inr ⟨rfl, _, rfl, rfl⟩
  · rintro (⟨op, rfl, rfl⟩ | ⟨rfl, d, rfl, rfl⟩)
    · exact .operator op
    · exact .closing

/-- What is wanted after a token depends on nothing else. -/
theorem Takes.unique (h : need.Takes token need') (h' : need.Takes token last) : need' = last := by
  cases need with
  | atom d =>
    rcases takes_atom_iff.1 h with ⟨n, -, rfl, rfl⟩ | ⟨rfl, rfl⟩ <;>
      rcases takes_atom_iff.1 h' with ⟨m, -, hm, rfl⟩ | ⟨hm, rfl⟩
    · rfl
    · exact absurd hm (digits_ne_singleton rfl)
    · exact absurd hm.symm (digits_ne_singleton rfl)
    · rfl
  | operator d =>
    have hne : ∀ op : Operator, [op.symbol] ≠ [')'] := by
      intro op
      cases op <;> decide
    rcases takes_operator_iff.1 h with ⟨op, rfl, rfl⟩ | ⟨rfl, k, rfl, rfl⟩ <;>
      rcases takes_operator_iff.1 h' with ⟨op', hop, rfl⟩ | ⟨hop, k', hk, rfl⟩
    · rfl
    · exact absurd hop (hne op)
    · exact absurd hop.symm (hne op')
    · rw [Nat.succ.inj hk]

theorem Takes.deeper (h : need.Takes token need') : need.deeper.Takes token need'.deeper := by
  cases h with
  | number hn => exact .number hn
  | opening => exact .opening
  | operator op => exact .operator op
  | closing => exact .closing

/-- One more parenthesis makes a difference only where none is open. -/
theorem Takes.exists_of_deeper (h : need.deeper.Takes token last) (hne : need ≠ .operator 0) :
    ∃ need', need.Takes token need' := by
  cases need with
  | atom d =>
    rcases takes_atom_iff.1 h with ⟨n, hn, rfl, -⟩ | ⟨rfl, -⟩
    · exact ⟨_, .number hn⟩
    · exact ⟨_, .opening⟩
  | operator d =>
    rcases takes_operator_iff.1 h with ⟨op, rfl, -⟩ | ⟨rfl, -⟩
    · exact ⟨_, .operator op⟩
    · cases d with
      | zero => exact absurd rfl hne
      | succ d => exact ⟨_, .closing⟩

theorem labels_deeper (hne : need ≠ .operator 0) : need.deeper.labels = need.labels := by
  cases need with
  | atom d => rfl
  | operator d =>
    cases d with
    | zero => exact absurd rfl hne
    | succ d => rfl

theorem deeper_ne_operator_zero (need : Need) : need.deeper ≠ operator 0 := by
  cases need <;> simp [Need.deeper]

/-! ## Tokens one after another -/

@[simp] theorem takesAll_nil_iff : TakesAll need [] last ↔ need = last := by
  constructor
  · rintro ⟨⟩
    rfl
  · rintro rfl
    exact .nil

theorem takesAll_cons_iff : TakesAll need (token :: tokens) last ↔
    ∃ need', need.Takes token need' ∧ TakesAll need' tokens last := by
  constructor
  · rintro (_ | ⟨h, hs⟩)
    exact ⟨_, h, hs⟩
  · rintro ⟨need', h, hs⟩
    exact .cons h hs

theorem takesAll_append_iff : TakesAll need (tokens ++ tokens') last ↔
    ∃ need', TakesAll need tokens need' ∧ TakesAll need' tokens' last := by
  induction tokens generalizing need with
  | nil => simp
  | cons token tokens ih =>
    simp only [List.cons_append, takesAll_cons_iff, ih]
    constructor
    · rintro ⟨mid, h, need', hs, hs'⟩
      exact ⟨need', ⟨mid, h, hs⟩, hs'⟩
    · rintro ⟨need', ⟨mid, h, hs⟩, hs'⟩
      exact ⟨mid, h, need', hs, hs'⟩

theorem TakesAll.append (h : TakesAll need tokens need') (h' : TakesAll need' tokens' last) :
    TakesAll need (tokens ++ tokens') last :=
  takesAll_append_iff.2 ⟨need', h, h'⟩

theorem TakesAll.unique (h : TakesAll need tokens last) (h' : TakesAll need tokens last') :
    last = last' := by
  induction h with
  | nil => exact takesAll_nil_iff.1 h'
  | cons ht _ ih =>
    obtain ⟨_, ht', hs⟩ := takesAll_cons_iff.1 h'
    obtain rfl := ht.unique ht'
    exact ih hs

theorem TakesAll.deeper (h : TakesAll need tokens last) :
    TakesAll need.deeper tokens last.deeper := by
  induction h with
  | nil => exact .nil
  | cons ht _ ih => exact .cons ht.deeper ih

/-- Tokens that are wanted inside of a parenthesis do not close it. -/
theorem TakesAll.ne_operator_zero (h : TakesAll need tokens last)
    (h' : TakesAll need.deeper tokens last') : last' ≠ operator 0 := by
  rw [← h.deeper.unique h']
  exact last.deeper_ne_operator_zero

theorem takesAll_replicate (d : Nat) :
    TakesAll (operator d) (List.replicate d [')']) (operator 0) := by
  induction d with
  | zero => exact .nil
  | succ d ih => exact .cons .closing ih

theorem takesAll_finish : ∀ need : Need, TakesAll need need.finish (operator 0)
  | atom d => .cons (.number (by decide)) (takesAll_replicate d)
  | operator d => takesAll_replicate d

end Need

/-! ## Tokens of trees -/

open Need

mutual

theorem Atom.takesAll : ∀ (a : Atom) (d : Nat), a.InRange →
    TakesAll (.atom d) a.tokens (.operator d)
  | .number n, d, hr => by
    obtain ⟨n, rfl⟩ := Int.eq_ofNat_of_zero_le hr.1
    exact .cons (.number hr.2) .nil
  | .group inner, d, hr =>
    .cons .opening ((Expr.takesAll inner (d + 1) hr).append (.cons .closing .nil))

/-- The tokens of a tree are wanted where an atom is. -/
theorem Expr.takesAll : ∀ (e : Expr) (d : Nat), e.InRange →
    TakesAll (.atom d) e.tokens (.operator d)
  | .mk first rest, d, hr =>
    (Atom.takesAll first d hr.1).append (takesAll_restTokens rest d hr.2)

theorem takesAll_restTokens : ∀ (rest : List (Operator × Atom)) (d : Nat), restInRange rest →
    TakesAll (.operator d) (restTokens rest) (.operator d)
  | [], _, _ => .nil
  | (op, a) :: rest, d, hr =>
    .cons (.operator op) ((Atom.takesAll a d hr.1).append (takesAll_restTokens rest d hr.2))

end

/-- Tokens behind an atom, up to the end: operators with their atoms, and so many times a
parenthesis that closes with operators and atoms behind it. -/
inductive Closings : Nat → List (List Char) → Prop
  | last (rest : List (Operator × Atom)) : restInRange rest → Closings 0 (restTokens rest)
  | closing {d : Nat} (rest : List (Operator × Atom)) {tokens : List (List Char)} :
      restInRange rest → Closings d tokens →
      Closings (d + 1) (restTokens rest ++ [')'] :: tokens)

/-- One more operator with its atom. -/
theorem Closings.pair {d : Nat} {tokens : List (List Char)} {op : Operator} {a : Atom}
    (h : Closings d tokens) (ha : a.InRange) :
    Closings d ([op.symbol] :: (a.tokens ++ tokens)) := by
  cases h with
  | last rest hr =>
    have := Closings.last ((op, a) :: rest) ⟨ha, hr⟩
    simpa [restTokens] using this
  | closing rest hr hc =>
    have := Closings.closing ((op, a) :: rest) ⟨ha, hr⟩ hc
    simpa [restTokens] using this

/-- What leads from a need to the end. -/
def Need.Leaves : Need → List (List Char) → Prop
  | .atom d, tokens => ∃ (a : Atom) (tokens' : List (List Char)), a.InRange ∧
      tokens = a.tokens ++ tokens' ∧ Closings d tokens'
  | .operator d, tokens => Closings d tokens

theorem Need.Takes.leaves {need need' : Need} {token : List Char} {tokens : List (List Char)}
    (h : need.Takes token need') (hl : need'.Leaves tokens) : need.Leaves (token :: tokens) := by
  cases h with
  | @number d n hn => exact ⟨.number n, tokens, ⟨Int.natCast_nonneg n, hn⟩, rfl, hl⟩
  | opening =>
    obtain ⟨a, _, ha, rfl, hc⟩ := hl
    obtain _ | @⟨_, rest, tokens, hr, hc⟩ := hc
    refine ⟨.group (.mk a rest), tokens, ⟨ha, hr⟩, ?_, hc⟩
    simp [Atom.tokens, Expr.tokens]
  | operator op =>
    obtain ⟨a, tokens, ha, rfl, hc⟩ := hl
    exact hc.pair ha
  | closing => exact .closing [] trivial hl

theorem Need.TakesAll.leaves {need last : Need} {tokens : List (List Char)}
    (h : TakesAll need tokens last) (hlast : last = .operator 0) : need.Leaves tokens := by
  induction h with
  | nil =>
    subst hlast
    exact .last [] trivial
  | cons ht _ ih => exact ht.leaves (ih hlast)

/-- The tokens of trees are those that lead from an atom to where nothing more is needed. -/
theorem takesAll_iff_tokens {tokens : List (List Char)} :
    TakesAll (.atom 0) tokens (.operator 0) ↔ ∃ e : Expr, e.InRange ∧ e.tokens = tokens := by
  constructor
  · intro h
    obtain ⟨a, _, ha, rfl, ⟨rest, hr⟩⟩ := h.leaves rfl
    exact ⟨.mk a rest, ⟨ha, hr⟩, rfl⟩
  · rintro ⟨e, hr, rfl⟩
    exact e.takesAll 0 hr

/-- All tokens that are wanted one after another are the beginning of a tree. -/
theorem exists_takesAll_iff {tokens : List (List Char)} :
    (∃ need, TakesAll (.atom 0) tokens need) ↔ ∃ e : Expr, e.InRange ∧ tokens <+: e.tokens := by
  constructor
  · rintro ⟨need, h⟩
    obtain ⟨e, hr, he⟩ := takesAll_iff_tokens.1 (h.append need.takesAll_finish)
    exact ⟨e, hr, _, he.symm⟩
  · rintro ⟨e, hr, tokens', h⟩
    have hall := e.takesAll 0 hr
    rw [← h, takesAll_append_iff] at hall
    obtain ⟨need, hn, -⟩ := hall
    exact ⟨need, hn⟩

end Descent.Calc
