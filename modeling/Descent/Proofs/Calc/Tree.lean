import Descent.Calc.Grammar

/-!
# The text of a tree

`Expr.render` prints a tree, `Expr.tokens` are the tokens of that text, and `Spaced` puts blanks
around them. The text that a parser of the tree takes is `Trailing`: each token has its blanks
behind it.
-/

namespace Descent.Calc

/-! ## Printing -/

mutual

/-- Prints an atom: the numeral of a number, or a tree in parentheses. -/
def Atom.render : Atom → List Char
  | .number n => Text.decimal n
  | .group inner => '(' :: (inner.render ++ [')'])

/-- Prints a tree: its first atom, and the operators with their atoms. -/
def Expr.render : Expr → List Char
  | .mk first rest => first.render ++ renderRest rest

/-- Prints operators with their atoms. -/
def renderRest : List (Operator × Atom) → List Char
  | [] => []
  | (op, atom) :: rest => op.symbol :: (atom.render ++ renderRest rest)

end

mutual

/-- The tokens of an atom. -/
def Atom.tokens : Atom → List (List Char)
  | .number n => [Text.decimal n]
  | .group inner => ['('] :: (inner.tokens ++ [[')']])

/-- The tokens of a tree. -/
def Expr.tokens : Expr → List (List Char)
  | .mk first rest => first.tokens ++ restTokens rest

/-- The tokens of operators with their atoms. -/
def restTokens : List (Operator × Atom) → List (List Char)
  | [] => []
  | (op, atom) :: rest => [op.symbol] :: (atom.tokens ++ restTokens rest)

end

mutual

theorem Atom.flatten_tokens : ∀ a : Atom, a.tokens.flatten = a.render
  | .number n => by simp [Atom.tokens, Atom.render]
  | .group inner => by simp [Atom.tokens, Atom.render, Expr.flatten_tokens inner]

/-- The tokens make up the text. -/
theorem Expr.flatten_tokens : ∀ e : Expr, e.tokens.flatten = e.render
  | .mk first rest => by
    simp [Expr.tokens, Expr.render, Atom.flatten_tokens first, flatten_restTokens rest]

theorem flatten_restTokens : ∀ rest, (restTokens rest).flatten = renderRest rest
  | [] => rfl
  | (op, atom) :: rest => by
    simp [restTokens, renderRest, Atom.flatten_tokens atom, flatten_restTokens rest]

end

/-! ## Numbers in range -/

mutual

/-- All numbers of the atom lie between 0 and the greatest integer of 64 bits. -/
def Atom.InRange : Atom → Prop
  | .number n => 0 ≤ n ∧ n ≤ Text.maxInt64
  | .group inner => inner.InRange

/-- All numbers of the tree lie between 0 and the greatest integer of 64 bits. -/
def Expr.InRange : Expr → Prop
  | .mk first rest => first.InRange ∧ restInRange rest

def restInRange : List (Operator × Atom) → Prop
  | [] => True
  | (_, atom) :: rest => atom.InRange ∧ restInRange rest

end

/-! ## Blanks -/

/-- A space, a tab or a line end. -/
def Blank (c : Char) : Prop := c = ' ' ∨ c = '\t' ∨ c = '\r' ∨ c = '\n'

instance (c : Char) : Decidable (Blank c) :=
  inferInstanceAs (Decidable (c = ' ' ∨ c = '\t' ∨ c = '\r' ∨ c = '\n'))

/-- `Spaced tokens text`: the text is the tokens with blanks before, between and after them. -/
inductive Spaced : List (List Char) → List Char → Prop
  | nil {gap : List Char} : (∀ c ∈ gap, Blank c) → Spaced [] gap
  | cons {gap token text : List Char} {tokens : List (List Char)} : (∀ c ∈ gap, Blank c) →
      Spaced tokens text → Spaced (token :: tokens) (gap ++ (token ++ text))

/-- What may stand behind a token. -/
def Gap (options : CalcOptions) (gap : List Char) : Prop :=
  ∀ c ∈ gap, options.allowWhitespace = true ∧ Blank c

/-- The text is the tokens with a gap behind each of them. -/
inductive Trailing (options : CalcOptions) : List (List Char) → List Char → Prop
  | nil : Trailing options [] []
  | cons {token gap text : List Char} {tokens : List (List Char)} : Gap options gap →
      Trailing options tokens text → Trailing options (token :: tokens) (token ++ (gap ++ text))

section
variable {options : CalcOptions} {tokens tokens' : List (List Char)} {text : List Char}

theorem trailing_append_iff :
    Trailing options (tokens ++ tokens') text ↔
      ∃ front rest, text = front ++ rest ∧ Trailing options tokens front ∧
        Trailing options tokens' rest := by
  induction tokens generalizing text with
  | nil =>
    constructor
    · exact fun h => ⟨[], text, rfl, .nil, h⟩
    · rintro ⟨_, rest, rfl, ⟨⟩, h⟩
      exact h
  | cons token tokens ih =>
    constructor
    · intro h
      cases h with
      | @cons _ gap text _ hg h =>
        obtain ⟨front, rest, rfl, hf, hr⟩ := ih.1 h
        exact ⟨token ++ (gap ++ front), rest, by simp, .cons hg hf, hr⟩
    · rintro ⟨_, rest, rfl, h, hr⟩
      cases h with
      | @cons _ gap front _ hg hf =>
        rw [List.append_assoc, List.append_assoc]
        exact .cons hg (ih.2 ⟨front, rest, rfl, hf, hr⟩)

theorem trailing_singleton_iff {token : List Char} :
    Trailing options [token] text ↔ ∃ gap, text = token ++ gap ∧ Gap options gap := by
  constructor
  · intro h
    cases h with
    | @cons _ gap _ _ hg h =>
      cases h
      exact ⟨gap, by simp, hg⟩
  · rintro ⟨gap, rfl, hg⟩
    rw [← List.append_nil gap]
    exact .cons hg .nil

/-- Without gaps, the text is the tokens and nothing else. -/
theorem Trailing.eq_flatten (h : Trailing options tokens text)
    (hgap : ∀ gap, gap <:+: text → Gap options gap → gap = []) : text = tokens.flatten := by
  induction h with
  | nil => rfl
  | @cons token gap text tokens hg _ ih =>
    obtain rfl := hgap gap ⟨token, text, by simp⟩ hg
    have hrest : ∀ gap, gap <:+: text → Gap options gap → gap = [] := fun gap hm =>
      hgap gap (hm.trans (List.suffix_append token text).isInfix)
    rw [ih hrest]
    rfl

theorem trailing_iff_flatten (ho : options.allowWhitespace = false) :
    Trailing options tokens text ↔ text = tokens.flatten := by
  constructor
  · intro h
    refine h.eq_flatten fun gap _ hg => List.eq_nil_iff_forall_not_mem.2 fun c hc => ?_
    have := (hg c hc).1
    rw [ho] at this
    cases this
  · rintro rfl
    induction tokens with
    | nil => exact .nil
    | cons token tokens ih => exact @Trailing.cons _ token [] _ _ (fun _ hc => nomatch hc) ih

/-- With blanks, those before the first token come on their own. -/
theorem spaced_iff (ho : options.allowWhitespace = true) :
    Spaced tokens text ↔
      ∃ gap rest, text = gap ++ rest ∧ (∀ c ∈ gap, Blank c) ∧ Trailing options tokens rest := by
  induction tokens generalizing text with
  | nil =>
    constructor
    · rintro ⟨hg⟩
      exact ⟨text, [], (List.append_nil _).symm, hg, .nil⟩
    · rintro ⟨gap, _, rfl, hg, ⟨⟩⟩
      rw [List.append_nil]
      exact .nil hg
  | cons token tokens ih =>
    constructor
    · intro h
      cases h with
      | @cons gap _ text _ hg h =>
        obtain ⟨gap', rest, rfl, hg', hr⟩ := ih.1 h
        exact ⟨gap, _, rfl, hg, .cons (fun c hc => ⟨ho, hg' c hc⟩) hr⟩
    · rintro ⟨gap, _, rfl, hg, h⟩
      cases h with
      | @cons _ gap' rest _ hg' hr =>
        exact .cons hg (ih.2 ⟨gap', rest, rfl, fun c hc => (hg' c hc).2, hr⟩)

end

/-! ## Trees and values -/

mutual

theorem Atom.ofValue?_toValue : ∀ a : Atom, Atom.ofValue? a.toValue = some a
  | .number n => by rw [Atom.toValue, Atom.ofValue?]
  | .group inner => by
    obtain ⟨items, hv, hi⟩ := inner.exists_items
    rw [Atom.toValue, hv, Atom.ofValue?, hi, Option.map_some]

theorem Expr.exists_items : ∀ e : Expr, ∃ items, e.toValue = .arr items ∧ ofItems? items = some e
  | .mk first rest => by
    refine ⟨_, rfl, ?_⟩
    rw [ofItems?, Atom.ofValue?_toValue first, ofRestItems?_restValues rest]
    rfl

theorem ofRestItems?_restValues :
    ∀ rest : List (Operator × Atom), ofRestItems? (restValues rest) = some rest
  | [] => by rw [restValues, ofRestItems?]
  | (op, atom) :: rest => by
    have hs : (String.ofList [op.symbol]).toList = [op.symbol] := by simp
    rw [restValues, Operator.toValue, Value.ofChars, ofRestItems?]
    simp only [hs, Operator.ofSymbol?_symbol, Atom.ofValue?_toValue atom,
      ofRestItems?_restValues rest]
    rfl

end

/-- A tree is read back from its value. -/
theorem Expr.ofValue?_toValue (e : Expr) : Expr.ofValue? e.toValue = some e := by
  obtain ⟨items, hv, hi⟩ := e.exists_items
  rw [hv, Expr.ofValue?, hi]

end Descent.Calc
