import Descent.Pattern.Node
import Descent.Proofs.Pattern.Preference

/-!
# Repetitions written out

`Node.Takes` is what an expression with simple loops reads, with its choices. Writing a counted
repetition out as copies, options and simple loops keeps the readings of an expression and all their
choices (`Node.takes_ofExpr`): alternatives stay in their order and repetitions as greedy as they
are. A loop over something that may match nothing is an option around a loop that runs at least
once, which has the same choices as a loop that runs any number of times.
-/

namespace Descent.Pattern.Node

open Choosing

/-! ## Simple loops -/

/-- A reading with the choices that it makes: `false` for the preferred one of two alternatives, and
for one more iteration where the loop is greedy, for none where it is lazy. -/
inductive Takes : Node → Place → Place → List Bool → Prop
  | empty (p : Place) : Takes .empty p p []
  | chars {p q : Place} {set : CharSet} : p.after? set = some q → Takes (.chars set) p q []
  | look {p : Place} {l : Look} : p.passes l = true → Takes (.look l) p p []
  | cat {p mid q : Place} {first second : Node} {choices choices' : List Bool} :
      Takes first p mid choices → Takes second mid q choices' →
      Takes (.cat first second) p q (choices ++ choices')
  | preferred {p q : Place} {preferred other : Node} {choices : List Bool} :
      Takes preferred p q choices → Takes (.alt preferred other) p q (false :: choices)
  | other {p q : Place} {preferred other : Node} {choices : List Bool} :
      Takes other p q choices → Takes (.alt preferred other) p q (true :: choices)
  | opt {p q : Place} {greedy : Bool} {body : Node} {choices : List Bool} :
      Takes body p q choices → Takes (.opt greedy body) p q ((!greedy) :: choices)
  | optSkip {p : Place} {greedy : Bool} {body : Node} : Takes (.opt greedy body) p p [greedy]
  | star {p mid q : Place} {greedy : Bool} {body : Node} {choices choices' : List Bool} :
      Takes body p mid choices → Takes (.star greedy body) mid q choices' →
      Takes (.star greedy body) p q ((!greedy) :: (choices ++ choices'))
  | starLeave {p : Place} {greedy : Bool} {body : Node} : Takes (.star greedy body) p p [greedy]
  | plus {p mid q : Place} {greedy : Bool} {body : Node} {choices choices' : List Bool} :
      Takes body p mid choices → Takes (.plus greedy body) mid q choices' →
      Takes (.plus greedy body) p q (choices ++ (!greedy) :: choices')
  | plusLeave {p q : Place} {greedy : Bool} {body : Node} {choices : List Bool} :
      Takes body p q choices → Takes (.plus greedy body) p q (choices ++ [greedy])

variable {body last first second preferred other : Node} {greedy : Bool} {p mid q : Place}
  {choices choices' : List Bool}

theorem takes_empty : empty.Takes = sure Eq := by
  funext p q choices
  refine propext ⟨fun h => ?_, ?_⟩
  · cases h
    exact ⟨rfl, rfl⟩
  · rintro ⟨rfl, rfl⟩
    exact .empty p

theorem takes_chars (set : CharSet) : (chars set).Takes = sure (Reading.char set) := by
  funext p q choices
  refine propext ⟨fun h => ?_, ?_⟩
  · cases h with
    | chars h => exact ⟨h, rfl⟩
  · rintro ⟨h, rfl⟩
    exact .chars h

theorem takes_look (l : Look) : (look l).Takes = sure (Reading.test l) := by
  funext p q choices
  refine propext ⟨fun h => ?_, ?_⟩
  · cases h with
    | look h => exact ⟨⟨h, rfl⟩, rfl⟩
  · rintro ⟨⟨h, rfl⟩, rfl⟩
    exact .look h

theorem takes_cat : (cat first second).Takes = andThen first.Takes second.Takes := by
  funext p q choices
  refine propext ⟨fun h => ?_, ?_⟩
  · cases h with
    | cat h h' => exact ⟨_, _, _, h, h', rfl⟩
  · rintro ⟨mid, choices, choices', h, h', rfl⟩
    exact .cat h h'

theorem takes_alt : (alt preferred other).Takes = orElse preferred.Takes other.Takes := by
  funext p q choices
  refine propext ⟨fun h => ?_, ?_⟩
  · cases h with
    | preferred h => exact .inl ⟨_, h, rfl⟩
    | other h => exact .inr ⟨_, h, rfl⟩
  · rintro (⟨more, h, rfl⟩ | ⟨more, h, rfl⟩)
    · exact .preferred h
    · exact .other h

theorem takes_opt : (opt greedy body).Takes = choose greedy body.Takes (sure Eq) := by
  funext p q choices
  rw [choose_iff]
  refine propext ⟨fun h => ?_, ?_⟩
  · cases h with
    | opt h => exact .inl ⟨_, h, rfl⟩
    | optSkip => exact .inr ⟨[], ⟨rfl, rfl⟩, rfl⟩
  · rintro (⟨more, h, rfl⟩ | ⟨_, ⟨rfl, rfl⟩, rfl⟩)
    · exact .opt h
    · exact .optSkip

theorem takes_star : (star greedy body).Takes = Repeats body.Takes greedy 0 none := by
  funext p q choices
  refine propext ⟨fun h => ?_, fun h => ?_⟩
  · generalize hnode : star greedy body = node at h
    induction h with
    | star h _ _ ih =>
      obtain ⟨rfl, rfl⟩ := Node.star.inj hnode
      exact .more (by simp) h (ih rfl)
    | starLeave =>
      obtain ⟨rfl, rfl⟩ := Node.star.inj hnode
      exact .leave (by simp)
    | _ => cases hnode
  · generalize hmin : 0 = min at h
    generalize hmax : none = max at h
    induction h with
    | must _ _ _ => cases hmin
    | more _ h _ ih =>
      subst hmax
      exact .star h (ih rfl rfl)
    | leave _ => exact .starLeave
    | done => cases hmax

/-- A loop that runs at least once is one iteration and then any number. -/
theorem takes_plus : (plus greedy body).Takes = Repeats body.Takes greedy 1 none := by
  rw [repeats_succ, Option.map_none, ← takes_star]
  funext p q choices
  refine propext ⟨fun h => ?_, ?_⟩
  · generalize hnode : plus greedy body = node at h
    induction h with
    | plus h _ _ ih =>
      obtain ⟨rfl, rfl⟩ := Node.plus.inj hnode
      obtain ⟨mid, choices, choices', h', hstar, rfl⟩ := ih rfl
      exact ⟨_, _, _, h, .star h' hstar, rfl⟩
    | plusLeave h _ =>
      obtain ⟨rfl, rfl⟩ := Node.plus.inj hnode
      exact ⟨_, _, _, h, .starLeave, rfl⟩
    | _ => cases hnode
  · rintro ⟨mid, choices, choices', h, hstar, rfl⟩
    generalize hnode : star greedy body = node at hstar
    induction hstar generalizing p choices with
    | star h' _ _ ih =>
      obtain ⟨rfl, rfl⟩ := Node.star.inj hnode
      exact .plus h (ih _ _ h' rfl)
    | starLeave =>
      obtain ⟨rfl, rfl⟩ := Node.star.inj hnode
      exact .plusLeave h
    | _ => cases hnode

/-! ## Repetitions -/

variable {min : Nat} {max : Option Nat}

/-- Copies in front are iterations that have to follow. -/
theorem takes_copies (h : last.Takes = Repeats body.Takes greedy min max) (n : Nat) :
    (copies body last n).Takes = Repeats body.Takes greedy (min + n) (max.map (· + n)) := by
  induction n with
  | zero => simpa [copies] using h
  | succ n ih =>
    have hpred : (max.map (· + (n + 1))).map Nat.pred = max.map (· + n) := by
      cases max <;> simp
    rw [copies, takes_cat, ih, ← Nat.add_assoc, repeats_succ, hpred]

theorem takes_upTo (n : Nat) :
    (upTo greedy body n).Takes = Repeats body.Takes greedy 0 (some n) := by
  induction n with
  | zero => rw [upTo, takes_empty, repeats_none]
  | succ n ih =>
    rw [repeats_zero (by simp), Option.map_some, Nat.pred_succ, ← ih]
    cases n with
    | zero => rw [upTo, upTo, takes_opt, takes_empty, andThen_sure]
    | succ n => rw [upTo, takes_opt, takes_cat]

/-- Both ways to write a repetition without bounds have the same choices. -/
theorem takes_many (consumes : Bool) :
    (many greedy consumes body).Takes = Repeats body.Takes greedy 0 none := by
  cases consumes with
  | true => exact takes_star
  | false =>
    show (opt greedy (plus greedy body)).Takes = _
    rw [takes_opt, takes_plus, repeats_succ, ← repeats_zero (by simp)]

theorem takes_repeated (consumes : Bool) (h : ∀ m ∈ max, min ≤ m) :
    (repeated min max greedy consumes body).Takes = Repeats body.Takes greedy min max := by
  unfold repeated
  split
  · exact takes_many consumes
  · next min =>
    rw [takes_copies takes_plus, Option.map_none, Nat.add_comm 1 min]
  · exact takes_upTo _
  · next min max =>
    have hle : min + 1 ≤ max := h max rfl
    by_cases hmax : max ≤ min + 1
    · obtain rfl : max = min + 1 := Nat.le_antisymm hmax hle
      rw [if_pos hmax, takes_copies repeats_once.symm, Option.map_some, Nat.add_comm 1 min]
    · rw [if_neg hmax, takes_copies (takes_upTo _), Option.map_some, Nat.zero_add,
        Nat.sub_add_cancel hle]

/-! ## Expressions -/

mutual

/-- The expression with its repetitions written out takes what the expression does. -/
theorem takes_ofExpr (e : Expr) (h : e.Ordered) : (ofExpr e).Takes = e.Takes := by
  match e, h with
  | .empty, _ => rw [ofExpr, takes_empty, Expr.Takes]
  | .chars set, _ => rw [ofExpr, takes_chars, Expr.Takes]
  | .look l, _ => rw [ofExpr, takes_look, Expr.Takes]
  | .rep min max greedy sub, h =>
    rw [ofExpr, takes_repeated _ h.1, takes_ofExpr sub h.2, Expr.Takes]
  | .group _ sub, h => rw [ofExpr, takes_ofExpr sub h, Expr.Takes]
  | .cat parts, h => rw [ofExpr, takes_ofSequence parts h, Expr.Takes]
  | .alt alternatives, h => rw [ofExpr, takes_ofChoice alternatives h, Expr.Takes]

theorem takes_ofSequence (es : List Expr) (h : Expr.AllOrdered es) :
    (ofSequence es).Takes = Expr.takesAll es := by
  match es, h with
  | [], _ => rw [ofSequence, takes_empty, Expr.takesAll]
  | [e], h => rw [ofSequence, takes_ofExpr e h.1, Expr.takesAll, Expr.takesAll, andThen_sure]
  | e :: e' :: es, h =>
    rw [ofSequence, takes_cat, takes_ofExpr e h.1, takes_ofSequence (e' :: es) h.2, ← Expr.takesAll]
    simp

theorem takes_ofChoice (es : List Expr) (h : Expr.AllOrdered es) :
    (ofChoice es).Takes = Expr.takesAny es := by
  match es, h with
  | [], _ =>
    funext p q choices
    simp [ofChoice, takes_chars, sure, Reading.not_char_empty, Expr.takesAny]
  | [e], h => rw [ofChoice, takes_ofExpr e h.1, Expr.takesAny]
  | e :: e' :: es, h =>
    rw [ofChoice, takes_alt, takes_ofExpr e h.1, takes_ofChoice (e' :: es) h.2,
      Expr.takesAny_cons_cons]
    simp

end

end Descent.Pattern.Node
