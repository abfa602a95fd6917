import Descent.Proofs.Pattern.Simplified

/-!
# Patterns as expressions

`Ast.written?` is the expression of a pattern just as it is written, with the flags applied and
nothing simplified: its alternatives are those of the pattern in their order, and its repetitions
are greedy where the pattern says so or, where greed is swapped, does not. `Ast.toExpr?` simplifies
it by the laws (`Ast.simplifies_toExpr?`), and both read what the pattern does.
-/

namespace Descent.Pattern.Ast

mutual

/-- The expression that a pattern is as written under the flags at its start. -/
def written? (flags : Flags) : Ast → Option Expr
  | empty | Ast.flags _ => some .empty
  | assertion a => some (.look (a.look flags))
  | repetition min max greedy sub =>
    (sub.written? flags).map (.rep min max (greedy != (sub.flagsAfter flags).swapGreed))
  | group (.capturing index) sub => (sub.written? flags).map (.group index)
  | group (.flagged change) sub => sub.written? (flags.after change)
  | alternation alternatives => (writtenAll? flags alternatives).map .alt
  | concat parts => (writtenAll? flags parts).map .cat
  | a => (a.class? flags).map .chars

/-- The expressions that the patterns are, each under the flags that the ones before it leave. -/
def writtenAll? (flags : Flags) : List Ast → Option (List Expr)
  | [] => some []
  | a :: as =>
    (a.written? flags).bind fun e => (writtenAll? (a.flagsAfter flags) as).map (e :: ·)

end

/-! ## What is read -/

theorem means_chars {flags : Flags} {a : Ast} {e : Expr}
    (h : (a.class? flags).map .chars = some e) :
    e.Means fun p q => ∃ set, a.class? flags = some set ∧ Reading.char set p q := by
  obtain ⟨set, hset, rfl⟩ := Option.map_eq_some_iff.1 h
  refine ⟨trivial, ?_⟩
  funext p q
  simp [Expr.Reads, hset]

mutual

theorem means_written? {flags : Flags} {e : Expr} (a : Ast) (ho : a.Ordered)
    (h : a.written? flags = some e) : e.Means (a.Reads flags) := by
  match a, ho, h with
  | .empty, _, h =>
    obtain rfl := Option.some.inj h
    exact ⟨trivial, by rw [Expr.Reads, Reads]⟩
  | .flags change, _, h =>
    obtain rfl := Option.some.inj h
    exact ⟨trivial, by rw [Expr.Reads, Reads]⟩
  | .assertion a, _, h =>
    obtain rfl := Option.some.inj h
    exact ⟨trivial, by rw [Expr.Reads, Reads]⟩
  | .literal l, _, h => exact means_chars h
  | .dot, _, h => exact means_chars h
  | .short kind negated, _, h => exact means_chars h
  | .property query negated, _, h => exact means_chars h
  | .bracketed negated inner, _, h => exact means_chars h
  | .repetition min max greedy sub, ho, h =>
    obtain ⟨e', he, rfl⟩ := Option.map_eq_some_iff.1 h
    have hsub := means_written? sub ho.2 he
    exact ⟨⟨ho.1, hsub.ordered⟩, by rw [Expr.Reads, Reads, hsub.reads]⟩
  | .group (.capturing index) sub, ho, h =>
    obtain ⟨e', he, rfl⟩ := Option.map_eq_some_iff.1 h
    have hsub := means_written? sub ho he
    exact ⟨hsub.ordered, by rw [Expr.Reads, Reads, hsub.reads]⟩
  | .group (.flagged change) sub, ho, h =>
    have hsub := means_written? sub ho h
    exact ⟨hsub.ordered, by rw [Reads, hsub.reads]⟩
  | .alternation alternatives, ho, h =>
    obtain ⟨es, hes, rfl⟩ := Option.map_eq_some_iff.1 h
    obtain ⟨hall, hany, -⟩ := means_writtenAll? alternatives ho hes
    exact ⟨hall, by rw [Expr.Reads, Reads, hany]⟩
  | .concat parts, ho, h =>
    obtain ⟨es, hes, rfl⟩ := Option.map_eq_some_iff.1 h
    obtain ⟨hall, -, heach⟩ := means_writtenAll? parts ho hes
    exact ⟨hall, by rw [Expr.Reads, Reads, heach]⟩

theorem means_writtenAll? {flags : Flags} {es : List Expr} (as : List Ast) (ho : AllOrdered as)
    (h : writtenAll? flags as = some es) :
    Expr.AllOrdered es ∧ Expr.readsAny es = readsAny flags as ∧
      Expr.readsAll es = readsAll flags as := by
  match as, ho, h with
  | [], _, h =>
    obtain rfl := Option.some.inj h
    exact ⟨trivial, rfl, rfl⟩
  | a :: as, ho, h =>
    obtain ⟨e, he, h⟩ := Option.bind_eq_some_iff.1 h
    obtain ⟨es', hes, rfl⟩ := Option.map_eq_some_iff.1 h
    have hfirst := means_written? a ho.1 he
    obtain ⟨hall, hany, heach⟩ := means_writtenAll? as ho.2 hes
    refine ⟨⟨hfirst.ordered, hall⟩, ?_, ?_⟩
    · rw [Expr.readsAny, readsAny, hfirst.reads, hany]
    · rw [Expr.readsAll, readsAll, hfirst.reads, heach]

end

/-! ## Simplification -/

/-- A pattern for one character becomes its class. -/
theorem simplifies_of_class? {flags after : Flags} {a : Ast} {e : Expr}
    (hstays : a.flagsAfter flags = flags)
    (hwritten : a.written? flags = (a.class? flags).map .chars)
    (htranslated : a.toExpr? flags = (a.class? flags).map fun set => (.chars set, flags))
    (h : a.toExpr? flags = some (e, after)) :
    after = a.flagsAfter flags ∧ ∃ w, a.written? flags = some w ∧ w.Simplifies e := by
  rw [htranslated] at h
  obtain ⟨set, hset, hexpr⟩ := Option.map_eq_some_iff.1 h
  obtain ⟨rfl, rfl⟩ := Prod.mk.inj hexpr
  exact ⟨hstays.symm, _, by rw [hwritten, hset, Option.map_some], .refl _⟩

mutual

/-- The expression of a pattern is simplified by the laws from the pattern as written. -/
theorem simplifies_toExpr? {flags after : Flags} {e : Expr} (a : Ast)
    (h : a.toExpr? flags = some (e, after)) :
    after = a.flagsAfter flags ∧ ∃ w, a.written? flags = some w ∧ w.Simplifies e := by
  match a, h with
  | .empty, h =>
    obtain ⟨rfl, rfl⟩ := Prod.mk.inj (Option.some.inj h)
    exact ⟨rfl, _, rfl, .refl _⟩
  | .flags change, h =>
    obtain ⟨rfl, rfl⟩ := Prod.mk.inj (Option.some.inj h)
    exact ⟨rfl, _, rfl, .refl _⟩
  | .assertion a, h =>
    obtain ⟨rfl, rfl⟩ := Prod.mk.inj (Option.some.inj h)
    exact ⟨rfl, _, rfl, .refl _⟩
  | .literal l, h =>
    exact simplifies_of_class? rfl rfl (by
      rw [toExpr?, class?, Option.map_eq_bind, Option.map_eq_bind, Option.bind_assoc]
      rfl) h
  | .dot, h =>
    exact simplifies_of_class? rfl rfl (by rw [toExpr?, class?, Option.map_eq_bind]; rfl) h
  | .short kind negated, h =>
    exact simplifies_of_class? rfl rfl (by rw [toExpr?, class?, Option.map_eq_bind]; rfl) h
  | .property query negated, h =>
    exact simplifies_of_class? rfl rfl (by rw [toExpr?, class?, Option.map_eq_bind]; rfl) h
  | .bracketed negated inner, h =>
    exact simplifies_of_class? rfl rfl
      (by rw [toExpr?, class?, Option.map_eq_bind, Option.bind_assoc]; rfl) h
  | .repetition min max greedy sub, h =>
    simp only [toExpr?, bind, Option.bind_eq_some_iff, Option.some.injEq, Prod.mk.injEq] at h
    obtain ⟨⟨e', after'⟩, he, rfl, rfl⟩ := h
    obtain ⟨rfl, w, hw, hsub⟩ := simplifies_toExpr? sub he
    exact ⟨rfl, _, by rw [written?, hw, Option.map_some],
      .trans (.inRep min max _ hsub) (Expr.simplifies_ofRep min max _ e')⟩
  | .group (.capturing index) sub, h =>
    simp only [toExpr?, bind, Option.bind_eq_some_iff, Option.some.injEq, Prod.mk.injEq] at h
    obtain ⟨⟨e', after'⟩, he, rfl, rfl⟩ := h
    obtain ⟨rfl, w, hw, hsub⟩ := simplifies_toExpr? sub he
    exact ⟨rfl, _, by rw [written?, hw, Option.map_some], .inGroup index hsub⟩
  | .group (.flagged change) sub, h =>
    simp only [toExpr?, bind, Option.bind_eq_some_iff, Option.some.injEq, Prod.mk.injEq] at h
    obtain ⟨⟨e', after'⟩, he, rfl, rfl⟩ := h
    obtain ⟨rfl, w, hw, hsub⟩ := simplifies_toExpr? sub he
    exact ⟨rfl, w, by rw [written?, hw], hsub⟩
  | .alternation alternatives, h =>
    simp only [toExpr?, bind, Option.bind_eq_some_iff, Option.some.injEq, Prod.mk.injEq] at h
    obtain ⟨⟨es, after'⟩, hes, rfl, rfl⟩ := h
    obtain ⟨rfl, ws, hws, heach⟩ := simplifies_toExprs? alternatives hes
    exact ⟨rfl, .alt ws, by rw [written?, hws, Option.map_some],
      .trans (Expr.simplifies_each .inAlt heach []) (Expr.simplifies_ofAlternatives es)⟩
  | .concat parts, h =>
    simp only [toExpr?, bind, Option.bind_eq_some_iff, Option.some.injEq, Prod.mk.injEq] at h
    obtain ⟨⟨es, after'⟩, hes, rfl, rfl⟩ := h
    obtain ⟨rfl, ws, hws, heach⟩ := simplifies_toExprs? parts hes
    exact ⟨rfl, .cat ws, by rw [written?, hws, Option.map_some],
      .trans (Expr.simplifies_each .inCat heach []) (Expr.simplifies_ofParts es)⟩

theorem simplifies_toExprs? {flags after : Flags} {es : List Expr} (as : List Ast)
    (h : toExprs? flags as = some (es, after)) :
    after = flagsAfterAll flags as ∧
      ∃ ws, writtenAll? flags as = some ws ∧ List.Forall₂ Expr.Simplifies ws es := by
  match as, h with
  | [], h =>
    obtain ⟨rfl, rfl⟩ := Prod.mk.inj (Option.some.inj h)
    exact ⟨rfl, [], rfl, .nil⟩
  | a :: as, h =>
    simp only [toExprs?, bind, Option.bind_eq_some_iff, Option.some.injEq, Prod.mk.injEq] at h
    obtain ⟨⟨e, next⟩, he, ⟨es', last⟩, hes, rfl, rfl⟩ := h
    obtain ⟨rfl, w, hw, hfirst⟩ := simplifies_toExpr? a he
    obtain ⟨rfl, ws, hws, hrest⟩ := simplifies_toExprs? as hes
    exact ⟨rfl, w :: ws, by rw [writtenAll?, hw, Option.bind_some, hws, Option.map_some],
      .cons hfirst hrest⟩

end

end Descent.Pattern.Ast
