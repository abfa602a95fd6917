import Descent.Proofs.Calc.Token

/-!
# What the calculator reads

Whatever an expression of the grammar matches is the text of a tree with numbers in range, and the
value of the match is that tree (`reads_of_matches`).
-/

namespace Descent.Calc

/-! ## Meanings -/

/-- The grammar's expression, which mentions no name from outside. -/
def expressionMeaning (options : CalcOptions) : Closure := ⟨expression options, 0, []⟩

/-- The names that an atom mentions. -/
def atomScope (options : CalcOptions) : List (String × Closure) :=
  [("expression", expressionMeaning options)]

def atomMeaning (options : CalcOptions) : Closure := ⟨atom options, 0, atomScope options⟩

/-- The names that the body of an expression mentions. -/
def bodyScope (options : CalcOptions) : List (String × Closure) :=
  ("atom", atomMeaning options) :: atomScope options

/-- An operator and an atom after it. -/
def pairMeaning (options : CalcOptions) : Closure :=
  ⟨.sequence [operator options, .var "atom"], 0, bodyScope options⟩

/-- What the grammar makes of an operator and the atom after it. -/
def pairValue (pair : Operator × Atom) : Value := .arr [pair.1.toValue, pair.2.toValue]

theorem treeValue_pairs (first : Atom) (rest : List (Operator × Atom)) :
    treeValue (.arr [first.toValue, .arr (rest.map pairValue)]) = (Expr.mk first rest).toValue := by
  rw [treeValue, Expr.toValue]
  congr 2
  induction rest with
  | nil => rfl
  | cons pair rest ih =>
    obtain ⟨op, a⟩ := pair
    rw [restValues, ← ih]
    rfl

section
variable {options : CalcOptions} {input : List Char} {position next : Nat} {v : Value}

theorem matches_var_atom_iff :
    Matches [] input ⟨.var "atom", 0, bodyScope options⟩ position v next ↔
      Matches [] input (atomMeaning options) position v next :=
  matches_means_iff (.var rfl)

theorem matches_expression_iff :
    Matches [] input (expressionMeaning options) position v next ↔
      ∃ w mid ws, Matches [] input (atomMeaning options) position w mid ∧
        Iterates [] input (pairMeaning options) mid ws next ∧
        v = treeValue (.arr [w, .arr ws]) := by
  rw [expressionMeaning, expression, matches_means_iff .recursive, matches_means_iff .bind,
    matches_transform_iff]
  constructor
  · rintro ⟨_, hs, rfl⟩
    obtain ⟨w, mid, _, ha, hp, rfl⟩ := matches_both_iff.1 hs
    obtain ⟨ws, rfl, hi⟩ := matches_many_iff.1 hp
    exact ⟨w, mid, ws, matches_var_atom_iff.1 ha, hi, rfl⟩
  · rintro ⟨w, mid, ws, ha, hi, rfl⟩
    have hp := matches_many_iff.2 ⟨ws, rfl, hi⟩
    exact ⟨_, matches_both_iff.2 ⟨w, mid, _, matches_var_atom_iff.2 ha, hp, rfl⟩, rfl⟩

theorem matches_pair_iff :
    Matches [] input (pairMeaning options) position v next ↔
      ∃ w mid w', Matches [] input ⟨operator options, 0, bodyScope options⟩ position w mid ∧
        Matches [] input (atomMeaning options) mid w' next ∧ v = .arr [w, w'] := by
  rw [pairMeaning, matches_both_iff]
  simp only [matches_var_atom_iff]

/-- The part of an atom between parentheses. -/
theorem matches_group_iff :
    Matches [] input
        ⟨.transform (Value.item 1)
            (.sequence [opening options, .var "expression", closing options]),
          0, atomScope options⟩ position v next ↔
      ∃ w mid mid' w', Matches [] input ⟨opening options, 0, atomScope options⟩ position w mid ∧
        Matches [] input (expressionMeaning options) mid v mid' ∧
        Matches [] input ⟨closing options, 0, atomScope options⟩ mid' w' next := by
  rw [matches_transform_iff]
  constructor
  · rintro ⟨_, hs, rfl⟩
    obtain ⟨vs, rfl, ht⟩ := matches_sequence_iff.1 hs
    obtain _ | @⟨_, _, _, mid, _, w, _, ho,
      _ | @⟨_, _, _, mid', _, v, _, he, _ | @⟨_, _, _, _, _, w', _, hc, _ | _⟩⟩⟩ := ht
    exact ⟨w, mid, mid', w', ho, (matches_means_iff (.var rfl)).1 he, hc⟩
  · rintro ⟨w, mid, mid', w', ho, he, hc⟩
    exact ⟨.arr [w, v, w'], matches_sequence_iff.2 ⟨_, rfl,
      .cons ho (.cons ((matches_means_iff (.var rfl)).2 he) (.cons hc .nil))⟩, rfl⟩

/-! ## What is matched is a tree -/

/-- The value is an atom whose text stands there. -/
def ReadsAtom (options : CalcOptions) (input : List Char) (position : Nat) (v : Value)
    (next : Nat) : Prop :=
  ∃ a : Atom, v = a.toValue ∧ a.InRange ∧ Stands options input position a.tokens next

/-- The value is a tree whose text stands there. -/
def Reads (options : CalcOptions) (input : List Char) (position : Nat) (v : Value)
    (next : Nat) : Prop :=
  ∃ e : Expr, v = e.toValue ∧ e.InRange ∧ Stands options input position e.tokens next

/-- An atom is what it should be if the expressions further on are. -/
theorem readsAtom_of_matches
    (hx : ∀ {mid last : Nat} {w : Value}, position < mid → mid ≤ Text.byteLength input →
      Matches [] input (expressionMeaning options) mid w last → Reads options input mid w last)
    (h : Matches [] input (atomMeaning options) position v next) :
    ReadsAtom options input position v next := by
  cases matches_choice_iff.1 h with
  | here hm =>
    obtain ⟨n, hn, rfl, ht⟩ := stands_number hm
    exact ⟨.number n, rfl, ⟨Int.natCast_nonneg n, hn⟩, ht⟩
  | there _ h =>
    cases h with
    | here hm =>
      obtain ⟨w, mid, mid', w', ho, he, hc⟩ := matches_group_iff.1 hm
      have hopen := stands_literal ho
      obtain ⟨e, rfl, hr, hs⟩ := hx hopen.lt hopen.le_length he
      exact ⟨.group e, rfl, hr, hopen.append (hs.append (stands_literal hc))⟩
    | there _ h => cases h

/-- The operators and atoms of an expression, likewise. -/
theorem reads_of_iterates {ws : List Value}
    (ha : ∀ {mid last : Nat} {w : Value}, position ≤ mid →
      Matches [] input (atomMeaning options) mid w last → ReadsAtom options input mid w last)
    (hn : Stands options input position [] position)
    (h : Iterates [] input (pairMeaning options) position ws next) :
    ∃ rest, ws = rest.map pairValue ∧ restInRange rest ∧
      Stands options input position (restTokens rest) next := by
  induction h with
  | stop _ => exact ⟨[], rfl, trivial, hn⟩
  | next hm _ _ ih =>
    obtain ⟨w, mid, w', ho, hw, rfl⟩ := matches_pair_iff.1 hm
    obtain ⟨op, rfl, ht⟩ := stands_operator ho
    obtain ⟨a, rfl, hra, hsa⟩ := ha (Nat.le_of_lt ht.lt) hw
    have hle := Nat.le_trans (Nat.le_of_lt ht.lt) hsa.le
    obtain ⟨rest, rfl, hr, hs⟩ := ih (fun hmid => ha (Nat.le_trans hle hmid)) hsa.nil
    exact ⟨(op, a) :: rest, rfl, ⟨hra, hr⟩, ht.append (hsa.append hs)⟩

/-- An expression is what it should be if its atoms are. -/
theorem reads_of_matches_atom
    (ha : ∀ {mid last : Nat} {w : Value}, position ≤ mid →
      Matches [] input (atomMeaning options) mid w last → ReadsAtom options input mid w last)
    (h : Matches [] input (expressionMeaning options) position v next) :
    Reads options input position v next := by
  obtain ⟨w, mid, ws, hw, hi, rfl⟩ := matches_expression_iff.1 h
  obtain ⟨a, rfl, hra, hsa⟩ := ha (Nat.le_refl _) hw
  obtain ⟨rest, rfl, hr, hs⟩ :=
    reads_of_iterates (fun hmid => ha (Nat.le_trans hsa.le hmid)) hsa.nil hi
  exact ⟨.mk a rest, treeValue_pairs a rest, ⟨hra, hr⟩, hsa.append hs⟩

/-- Whatever an expression matches is the text of the tree that it makes of it. -/
theorem reads_of_matches (h : Matches [] input (expressionMeaning options) position v next) :
    Reads options input position v next := by
  -- An expression in parentheses starts further on in the input.
  induction hn : Text.byteLength input - position using Nat.strongRecOn
    generalizing position v next with
  | ind n ih =>
    refine reads_of_matches_atom (fun hmid hatom => ?_) h
    refine readsAtom_of_matches (fun hlt hle hx => ?_) hatom
    exact ih _ (by omega) hx rfl

end

end Descent.Calc
