import Descent.Calc.Evaluate

/-!
# Exact values

`Expr.exact` is the value of a tree in unbounded integers, and `Expr.totals` are the running totals
on the way to it, at the outermost level of parentheses. Evaluation comes to the exact value if the
totals of all levels have at most 64 bits, and else it overflows (`Expr.evaluate_exact`).
-/

namespace Descent.Calc

/-! ## Unbounded integers -/

mutual

/-- The value of an atom in unbounded integers. -/
def Atom.exact : Atom → Int
  | .number n => n
  | .group inner => inner.exact

/-- The value of a tree in unbounded integers. -/
def Expr.exact : Expr → Int
  | .mk first rest => exactRest first.exact rest

/-- The total after the operators, from the total before them. -/
def exactRest (total : Int) : List (Operator × Atom) → Int
  | [] => total
  | (op, atom) :: rest => exactRest (op.apply total atom.exact) rest

end

/-- The running totals from the one before the operators to the one after them. -/
def totalsFrom (total : Int) : List (Operator × Atom) → List Int
  | [] => [total]
  | (op, atom) :: rest => total :: totalsFrom (op.apply total atom.exact) rest

/-- The running totals of a tree from left to right, where each atom counts with its exact value. -/
def Expr.totals (e : Expr) : List Int := totalsFrom e.first.exact e.rest

mutual

/-- The trees in the parentheses of an atom, at any depth. -/
def Atom.levels : Atom → List Expr
  | .number _ => []
  | .group inner => inner.levels

/-- The tree and all trees in its parentheses, at any depth. -/
def Expr.levels : Expr → List Expr
  | .mk first rest => .mk first rest :: (first.levels ++ restLevels rest)

def restLevels : List (Operator × Atom) → List Expr
  | [] => []
  | (_, atom) :: rest => atom.levels ++ restLevels rest

end

mutual

/-- The numbers of an atom, in order. -/
def Atom.numbers : Atom → List Int
  | .number n => [n]
  | .group inner => inner.numbers

/-- The numbers of a tree, in order. -/
def Expr.numbers : Expr → List Int
  | .mk first rest => first.numbers ++ restNumbers rest

def restNumbers : List (Operator × Atom) → List Int
  | [] => []
  | (_, atom) :: rest => atom.numbers ++ restNumbers rest

end

/-- All of the integers have at most 64 bits. -/
def AllFit (ns : List Int) : Prop := ∀ n ∈ ns, Text.fitsInt64 n = true

instance (ns : List Int) : Decidable (AllFit ns) :=
  inferInstanceAs (Decidable (∀ n ∈ ns, Text.fitsInt64 n = true))

/-- All running totals of these levels have at most 64 bits. -/
def LevelsFit (levels : List Expr) : Prop := ∀ level ∈ levels, AllFit level.totals

instance (levels : List Expr) : Decidable (LevelsFit levels) :=
  inferInstanceAs (Decidable (∀ level ∈ levels, AllFit level.totals))

/-! ## Totals that fit -/

section
variable {n : Int} {ms ns : List Int} {level : Expr} {ks ls : List Expr}

@[simp] theorem allFit_cons : AllFit (n :: ns) ↔ Text.fitsInt64 n = true ∧ AllFit ns :=
  List.forall_mem_cons

@[simp] theorem allFit_append : AllFit (ms ++ ns) ↔ AllFit ms ∧ AllFit ns :=
  List.forall_mem_append

@[simp] theorem levelsFit_nil : LevelsFit [] := List.forall_mem_nil _

@[simp] theorem levelsFit_cons : LevelsFit (level :: ls) ↔ AllFit level.totals ∧ LevelsFit ls :=
  List.forall_mem_cons

@[simp] theorem levelsFit_append : LevelsFit (ks ++ ls) ↔ LevelsFit ks ∧ LevelsFit ls :=
  List.forall_mem_append

end

theorem mem_totalsFrom_self (total : Int) (rest : List (Operator × Atom)) :
    total ∈ totalsFrom total rest := by
  cases rest <;> simp [totalsFrom]

/-- The value is the last of the totals. -/
theorem exactRest_mem_totalsFrom (total : Int) (rest : List (Operator × Atom)) :
    exactRest total rest ∈ totalsFrom total rest := by
  induction rest generalizing total with
  | nil => simp [exactRest, totalsFrom]
  | cons pair rest ih =>
    rw [exactRest, totalsFrom]
    exact List.mem_cons_of_mem _ (ih _)

/-- The value of an atom fits if its number does, or the totals of its levels do. -/
theorem Atom.fits_exact {a : Atom} (hn : AllFit a.numbers) (hl : LevelsFit a.levels) :
    Text.fitsInt64 a.exact = true := by
  cases a with
  | number n => exact hn n (by simp [Atom.numbers])
  | group inner =>
    obtain ⟨first, rest⟩ := inner
    have htotals : AllFit (Expr.mk first rest).totals := hl _ (by simp [Atom.levels, Expr.levels])
    exact htotals _ (exactRest_mem_totalsFrom first.exact rest)

/-! ## Evaluation -/

mutual

theorem Atom.evaluate_eq : ∀ a : Atom, AllFit a.numbers →
    a.evaluate = if LevelsFit a.levels then .ok a.exact else .error .overflow
  | .number n, _ => by simp [Atom.evaluate, Atom.levels, Atom.exact]
  | .group inner, h => inner.evaluate_eq h

/-- The value of a tree is exact, or some level has a total that does not fit. -/
theorem Expr.evaluate_eq : ∀ e : Expr, AllFit e.numbers →
    e.evaluate = if LevelsFit e.levels then .ok e.exact else .error .overflow
  | .mk first rest, h => by
    obtain ⟨hfirst, hrest⟩ := allFit_append.1 h
    rw [Expr.evaluate, Atom.evaluate_eq first hfirst]
    by_cases hl : LevelsFit first.levels
    · have htotal := Atom.fits_exact hfirst hl
      simp only [hl, if_true, evaluateRest_eq rest hrest htotal, Expr.levels, levelsFit_cons,
        levelsFit_append, true_and]
      rfl
    · simp [hl, Expr.levels]

theorem evaluateRest_eq : ∀ (rest : List (Operator × Atom)) {total : Int},
    AllFit (restNumbers rest) → Text.fitsInt64 total = true →
    evaluateRest total rest =
      if AllFit (totalsFrom total rest) ∧ LevelsFit (restLevels rest)
      then .ok (exactRest total rest) else .error .overflow
  | [], total, _, ht => by
    have hfit : AllFit (totalsFrom total []) := by simpa [totalsFrom, AllFit] using ht
    simp [evaluateRest, restLevels, exactRest, hfit]
  | (op, a) :: rest, total, h, ht => by
    obtain ⟨ha, hrest⟩ := allFit_append.1 h
    rw [evaluateRest, Atom.evaluate_eq a ha]
    simp only [totalsFrom, restLevels, exactRest, allFit_cons, levelsFit_append, ht, true_and]
    by_cases hl : LevelsFit a.levels
    · simp only [hl, if_true, Operator.checked, true_and]
      by_cases hnext : Text.fitsInt64 (op.apply total a.exact) = true
      · simp only [if_pos hnext, evaluateRest_eq rest hrest hnext]
      · -- the next total is among those that the rest is to come to
        have hno : ¬ AllFit (totalsFrom (op.apply total a.exact) rest) :=
          fun hall => hnext (hall _ (mem_totalsFrom_self _ rest))
        simp [hnext, hno]
    · simp [hl]

end

/-- The value of a tree of numbers of 64 bits is its exact value, just if at every level of
parentheses every running total has at most 64 bits; in all other cases it overflows. -/
theorem Expr.evaluate_exact (e : Expr) (h : ∀ n ∈ e.numbers, Text.fitsInt64 n = true) :
    (∀ v, e.evaluate = .ok v ↔
      (∀ level ∈ e.levels, ∀ total ∈ level.totals, Text.fitsInt64 total = true) ∧ v = e.exact) ∧
    ∀ error, e.evaluate = .error error ↔
      (∃ level ∈ e.levels, ∃ total ∈ level.totals, Text.fitsInt64 total = false) ∧
        error = .overflow := by
  have heq := e.evaluate_eq h
  by_cases hl : LevelsFit e.levels
  · rw [if_pos hl] at heq
    have hall : ∀ level ∈ e.levels, ∀ total ∈ level.totals, Text.fitsInt64 total = true := hl
    refine ⟨fun v => ?_, fun error => ?_⟩
    · rw [heq, Except.ok.injEq, eq_comm]
      exact ⟨fun hv => ⟨hall, hv⟩, fun hv => hv.2⟩
    · constructor
      · intro he
        rw [heq] at he
        cases he
      · rintro ⟨⟨level, hlevel, total, htotal, hf⟩, -⟩
        rw [hall level hlevel total htotal] at hf
        cases hf
  · rw [if_neg hl] at heq
    have hex : ∃ level ∈ e.levels, ∃ total ∈ level.totals, Text.fitsInt64 total = false := by
      simpa [LevelsFit, AllFit] using hl
    refine ⟨fun v => ?_, fun error => ?_⟩
    · constructor
      · intro hv
        rw [heq] at hv
        cases hv
      · exact fun hv => absurd hv.1 hl
    · rw [heq, Except.error.injEq, eq_comm]
      exact ⟨fun he => ⟨hex, he⟩, fun he => he.2⟩

/-- A difference of negative numbers reaches the greatest integer; a sum that would come back into
range overflows on the way, also inside parentheses. -/
theorem Expr.evaluate_exact_extremes :
    let difference := Expr.mk (.number (-1)) [(.minus, .group (.mk (.number Text.minInt64) []))]
    let sum := Expr.mk (.number 0)
      [(.plus, .group (.mk (.number Text.maxInt64) [(.plus, .number 1), (.minus, .number 2)]))]
    (∀ n ∈ difference.numbers, Text.fitsInt64 n = true) ∧
      difference.evaluate = .ok Text.maxInt64 ∧
      (∀ n ∈ sum.numbers, Text.fitsInt64 n = true) ∧ sum.exact = Text.maxInt64 - 1 ∧
      sum.evaluate = .error .overflow := by
  intro difference sum
  have hd : ∀ n ∈ difference.numbers, Text.fitsInt64 n = true := by decide
  have hs : ∀ n ∈ sum.numbers, Text.fitsInt64 n = true := by decide
  refine ⟨hd, ((evaluate_exact difference hd).1 _).2 ⟨by decide, by decide⟩, hs, by decide, ?_⟩
  exact ((evaluate_exact sum hs).2 _).2 ⟨by decide, rfl⟩

end Descent.Calc
