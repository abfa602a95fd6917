import Descent.Proofs.Pattern.Reading

/-!
# What a pattern prefers

`Expr.Takes` is what an expression reads, with the choices that a reading makes on its way. A choice
is `false` for what is preferred: for the earlier of two alternatives, and for one more iteration of
a greedy repetition or none of a lazy one. Of two readings the one is preferred that makes the
preferred choice where they differ first (`NoWorse`). Without the choices, an expression takes what
it reads (`Expr.reads_iff_takes`).
-/

namespace Descent.Pattern

/-! ## Choices -/

/-- Choices that are no worse than others: where the two differ first, they are for what is
preferred. -/
inductive NoWorse : List Bool → List Bool → Prop
  | nil (choices' : List Bool) : NoWorse [] choices'
  | same {choices choices' : List Bool} (choice : Bool) : NoWorse choices choices' →
      NoWorse (choice :: choices) (choice :: choices')
  | differ (choices choices' : List Bool) : NoWorse (false :: choices) (true :: choices')

/-- Which places a part of a pattern reads to from which, and the choices that it makes. -/
abbrev Choosing := Place → Place → List Bool → Prop

namespace Choosing

/-- What is read without a choice. -/
def sure (R : Reading) : Choosing := fun p q choices => R p q ∧ choices = []

/-- One after the other. -/
def andThen (T U : Choosing) : Choosing := fun p q choices =>
  ∃ mid first second, T p mid first ∧ U mid q second ∧ choices = first ++ second

/-- One of two, of which the first is preferred. -/
def orElse (T U : Choosing) : Choosing := fun p q choices =>
  (∃ more, T p q more ∧ choices = false :: more) ∨ ∃ more, U p q more ∧ choices = true :: more

/-- To go on or to leave: greedy parts prefer to go on, lazy ones to leave. -/
def choose (greedy : Bool) (on out : Choosing) : Choosing :=
  if greedy then on.orElse out else out.orElse on

/-- From `min` to `max` iterations, without end if there is no `max`. There is a choice before each
iteration that may follow but need not. -/
inductive Repeats (T : Choosing) (greedy : Bool) :
    Nat → Option Nat → Place → Place → List Bool → Prop
  /-- An iteration that has to follow. -/
  | must {min : Nat} {max : Option Nat} {p mid q : Place} {first second : List Bool} :
      T p mid first → Repeats T greedy min (max.map Nat.pred) mid q second →
      Repeats T greedy (min + 1) max p q (first ++ second)
  /-- An iteration that may follow. -/
  | more {max : Option Nat} {p mid q : Place} {first second : List Bool} : max ≠ some 0 →
      T p mid first → Repeats T greedy 0 (max.map Nat.pred) mid q second →
      Repeats T greedy 0 max p q ((!greedy) :: (first ++ second))
  | leave {max : Option Nat} {p : Place} : max ≠ some 0 → Repeats T greedy 0 max p p [greedy]
  /-- No iteration may follow. -/
  | done {p : Place} : Repeats T greedy 0 (some 0) p p []

variable {T U V : Choosing} {R : Reading} {greedy : Bool} {min : Nat} {max : Option Nat}
  {p q : Place} {choices : List Bool}

theorem choose_iff {on out : Choosing} : choose greedy on out p q choices ↔
    (∃ more, on p q more ∧ choices = (!greedy) :: more) ∨
      ∃ more, out p q more ∧ choices = greedy :: more := by
  cases greedy with
  | true => exact Iff.rfl
  | false => exact Or.comm

@[simp] theorem andThen_sure : T.andThen (sure Eq) = T := by
  funext p q choices
  refine propext ⟨?_, fun h => ⟨q, choices, [], h, ⟨rfl, rfl⟩, (List.append_nil _).symm⟩⟩
  rintro ⟨mid, first, _, h, ⟨rfl, rfl⟩, rfl⟩
  rwa [List.append_nil]

/-! ## Repetitions -/

theorem repeats_succ :
    T.Repeats greedy (min + 1) max = T.andThen (T.Repeats greedy min (max.map Nat.pred)) := by
  funext p q choices
  refine propext ⟨fun h => ?_, ?_⟩
  · cases h with
    | must h h' => exact ⟨_, _, _, h, h', rfl⟩
  · rintro ⟨mid, first, second, h, h', rfl⟩
    exact .must h h'

theorem repeats_zero (h : max ≠ some 0) : T.Repeats greedy 0 max =
    choose greedy (T.andThen (T.Repeats greedy 0 (max.map Nat.pred))) (sure Eq) := by
  funext p q choices
  rw [choose_iff]
  refine propext ⟨fun hT => ?_, ?_⟩
  · cases hT with
    | more _ h h' => exact .inl ⟨_, ⟨_, _, _, h, h', rfl⟩, rfl⟩
    | leave _ => exact .inr ⟨[], ⟨rfl, rfl⟩, rfl⟩
    | done => exact absurd rfl h
  · rintro (⟨_, ⟨mid, first, second, hT, hT', rfl⟩, rfl⟩ | ⟨_, ⟨rfl, rfl⟩, rfl⟩)
    · exact .more h hT hT'
    · exact .leave h

theorem repeats_none : T.Repeats greedy 0 (some 0) = sure Eq := by
  funext p q choices
  refine propext ⟨fun h => ?_, ?_⟩
  · cases h with
    | more h | leave h => exact absurd rfl h
    | done => exact ⟨rfl, rfl⟩
  · rintro ⟨rfl, rfl⟩
    exact .done

theorem repeats_once : T.Repeats greedy 1 (some 1) = T := by
  rw [repeats_succ, Option.map_some, Nat.pred_succ, repeats_none, andThen_sure]

/-- One iteration less is within bounds that are one less. -/
theorem le_of_mem_map_pred (h : ∀ m ∈ max, min + 1 ≤ m) : ∀ m ∈ max.map Nat.pred, min ≤ m := by
  intro m hm
  obtain ⟨m', hm', rfl⟩ := Option.map_eq_some_iff.1 hm
  exact Nat.le_pred_of_lt (h m' hm')

theorem le_of_forall_mem_map_pred {n : Nat} (h : ∀ m ∈ max.map Nat.pred, n ≤ m)
    (hpos : ∀ m ∈ max, 0 < m) : ∀ m ∈ max, n + 1 ≤ m := by
  intro m hm
  have hle : n ≤ m.pred := h m.pred (Option.map_eq_some_iff.2 ⟨m, hm, rfl⟩)
  exact Nat.succ_le_of_lt (Nat.lt_of_le_of_lt hle (Nat.pred_lt (Nat.ne_of_gt (hpos m hm))))

/-- Any number of iterations within the bounds is a repetition. -/
theorem exists_repeats_of_counted (hR : ∀ p q, R p q → ∃ choices, T p q choices)
    (h : R.counted min max p q) : ∃ choices, T.Repeats greedy min max p q choices := by
  obtain ⟨n, hmin, hmax, h⟩ := h
  induction n generalizing min max p with
  | zero =>
    obtain rfl := Nat.eq_zero_of_le_zero hmin
    obtain rfl : p = q := h
    by_cases hnone : max = some 0
    · exact ⟨[], hnone ▸ .done⟩
    · exact ⟨[greedy], .leave hnone⟩
  | succ n ih =>
    obtain ⟨mid, hfirst, hrest⟩ := h
    obtain ⟨first, hfirst⟩ := hR _ _ hfirst
    have hpred := le_of_mem_map_pred hmax
    cases min with
    | zero =>
      have hnone : max ≠ some 0 := fun heq => absurd (hmax 0 heq) (Nat.not_succ_le_zero n)
      obtain ⟨second, hrest⟩ := ih (Nat.zero_le n) hpred hrest
      exact ⟨_, .more hnone hfirst hrest⟩
    | succ min =>
      obtain ⟨second, hrest⟩ := ih (Nat.le_of_succ_le_succ hmin) hpred hrest
      exact ⟨_, .must hfirst hrest⟩

/-- A repetition is a number of iterations within its bounds. -/
theorem counted_of_repeats (hT : ∀ p q choices, T p q choices → R p q) (h : ∀ m ∈ max, min ≤ m)
    (hrepeats : T.Repeats greedy min max p q choices) : R.counted min max p q := by
  induction hrepeats with
  | @must min max p mid q first second hfirst _ ih =>
    obtain ⟨n, hmin, hmax, hrest⟩ := ih (le_of_mem_map_pred h)
    have hpos : ∀ m ∈ max, 0 < m := fun m hm => Nat.lt_of_lt_of_le (Nat.succ_pos min) (h m hm)
    have hmore : ∀ m ∈ max, n + 1 ≤ m := le_of_forall_mem_map_pred hmax hpos
    exact ⟨n + 1, Nat.succ_le_succ hmin, hmore, mid, hT _ _ _ hfirst, hrest⟩
  | @more max p mid q first second hnone hfirst _ ih =>
    obtain ⟨n, -, hmax, hrest⟩ := ih fun _ _ => Nat.zero_le _
    have hpos : ∀ m ∈ max, 0 < m := fun m hm => Nat.pos_of_ne_zero fun heq => hnone (heq ▸ hm)
    have hmore : ∀ m ∈ max, n + 1 ≤ m := le_of_forall_mem_map_pred hmax hpos
    exact ⟨n + 1, Nat.zero_le _, hmore, mid, hT _ _ _ hfirst, hrest⟩
  | leave _ => exact ⟨0, Nat.zero_le _, fun _ _ => Nat.zero_le _, rfl⟩
  | done => exact ⟨0, Nat.zero_le _, fun _ _ => Nat.zero_le _, rfl⟩

/-- Without the choices, a repetition is a number of times within its bounds. -/
theorem exists_repeats_iff (hT : ∀ p q, R p q ↔ ∃ choices, T p q choices)
    (h : ∀ m ∈ max, min ≤ m) :
    R.counted min max p q ↔ ∃ choices, T.Repeats greedy min max p q choices := by
  constructor
  · exact exists_repeats_of_counted fun p q => (hT p q).1
  · rintro ⟨choices, hrepeats⟩
    exact counted_of_repeats (fun p q choices h => (hT p q).2 ⟨choices, h⟩) h hrepeats

/-! ## Choices decide -/

/-- The choices of a reading decide where it ends, and none are a front part of others. -/
def Decides (T : Choosing) : Prop :=
  ∀ ⦃p q q' : Place⦄ ⦃choices choices' rest rest' : List Bool⦄, T p q choices → T p q' choices' →
    choices ++ rest = choices' ++ rest' → choices = choices' ∧ q = q'

theorem decides_sure (h : ∀ {p q q'}, R p q → R p q' → q = q') : Decides (sure R) := by
  rintro p q q' _ _ rest rest' ⟨hR, rfl⟩ ⟨hR', rfl⟩ -
  exact ⟨rfl, h hR hR'⟩

theorem decides_andThen (hT : Decides T) (hU : Decides U) : Decides (T.andThen U) := by
  rintro p q q' _ _ rest rest' ⟨mid, first, second, h, h', rfl⟩ ⟨mid', first', second', k, k', rfl⟩
    heq
  rw [List.append_assoc, List.append_assoc] at heq
  obtain ⟨rfl, rfl⟩ := hT h k heq
  obtain ⟨rfl, rfl⟩ := hU h' k' (List.append_cancel_left heq)
  exact ⟨rfl, rfl⟩

theorem decides_orElse (hT : Decides T) (hU : Decides U) : Decides (T.orElse U) := by
  rintro p q q' _ _ rest rest' (⟨more, h, rfl⟩ | ⟨more, h, rfl⟩)
    (⟨more', h', rfl⟩ | ⟨more', h', rfl⟩)
    heq
  · obtain ⟨rfl, rfl⟩ := hT h h' (List.cons.inj heq).2
    exact ⟨rfl, rfl⟩
  · cases heq
  · cases heq
  · obtain ⟨rfl, rfl⟩ := hU h h' (List.cons.inj heq).2
    exact ⟨rfl, rfl⟩

theorem decides_repeats (hT : Decides T) : Decides (T.Repeats greedy min max) := by
  intro p q q' choices choices' rest rest' h h' heq
  -- Whether there is one more iteration is told by the bounds, or by the first choice.
  induction h generalizing choices' with
  | must hfirst _ ih =>
    cases h' with
    | must hfirst' hrest' =>
      rw [List.append_assoc, List.append_assoc] at heq
      obtain ⟨rfl, rfl⟩ := hT hfirst hfirst' heq
      obtain ⟨rfl, rfl⟩ := ih hrest' (List.append_cancel_left heq)
      exact ⟨rfl, rfl⟩
  | more hnone hfirst _ ih =>
    cases h' with
    | more _ hfirst' hrest' =>
      rw [List.cons_append, List.cons_append, List.append_assoc, List.append_assoc] at heq
      have heq := (List.cons.inj heq).2
      obtain ⟨rfl, rfl⟩ := hT hfirst hfirst' heq
      obtain ⟨rfl, rfl⟩ := ih hrest' (List.append_cancel_left heq)
      exact ⟨rfl, rfl⟩
    | leave _ => simp at heq
    | done => exact absurd rfl hnone
  | leave hnone =>
    cases h' with
    | more _ _ _ => simp at heq
    | leave _ => exact ⟨rfl, rfl⟩
    | done => exact absurd rfl hnone
  | done =>
    cases h' with
    | more hnone _ _ => exact absurd rfl hnone
    | leave hnone => exact absurd rfl hnone
    | done => exact ⟨rfl, rfl⟩

end Choosing

/-! ## Expressions -/

namespace Expr

open Choosing

mutual

/-- What an expression reads and the choices that it makes for that. -/
def Takes : Expr → Choosing
  | empty => sure Eq
  | chars set => sure (Reading.char set)
  | look l => sure (Reading.test l)
  | rep min max greedy sub => sub.Takes.Repeats greedy min max
  | group _ sub => sub.Takes
  | cat parts => takesAll parts
  | alt alternatives => takesAny alternatives

/-- One expression after another. -/
def takesAll : List Expr → Choosing
  | [] => sure Eq
  | e :: es => e.Takes.andThen (takesAll es)

/-- Any of the expressions, the earlier ones preferred to the later ones. -/
def takesAny : List Expr → Choosing
  | [] => fun _ _ _ => False
  | [e] => e.Takes
  | e :: es => e.Takes.orElse (takesAny es)

end

theorem takesAny_cons_cons (e e' : Expr) (es : List Expr) :
    takesAny (e :: e' :: es) = e.Takes.orElse (takesAny (e' :: es)) := by
  rw [takesAny]
  simp

mutual

/-- Without the choices, an expression takes what it reads. -/
theorem reads_iff_takes (e : Expr) (h : e.Ordered) {p q : Place} :
    e.Reads p q ↔ ∃ choices, e.Takes p q choices := by
  match e, h with
  | .empty, _ => simp [Reads, Takes, sure]
  | .chars _, _ => simp [Reads, Takes, sure]
  | .look _, _ => simp [Reads, Takes, sure]
  | .rep min max greedy sub, h =>
    rw [Reads, Takes]
    exact exists_repeats_iff (fun _ _ => reads_iff_takes sub h.2) h.1
  | .group _ sub, h =>
    rw [Reads, Takes]
    exact reads_iff_takes sub h
  | .cat parts, h =>
    rw [Reads, Takes]
    exact readsAll_iff_takesAll parts h
  | .alt alternatives, h =>
    rw [Reads, Takes]
    exact readsAny_iff_takesAny alternatives h

theorem readsAll_iff_takesAll (es : List Expr) (h : AllOrdered es) {p q : Place} :
    readsAll es p q ↔ ∃ choices, takesAll es p q choices := by
  match es, h with
  | [], _ => simp [readsAll, takesAll, sure]
  | e :: es, h =>
    rw [readsAll, takesAll]
    constructor
    · rintro ⟨mid, hfirst, hrest⟩
      obtain ⟨first, hfirst⟩ := (reads_iff_takes e h.1).1 hfirst
      obtain ⟨second, hrest⟩ := (readsAll_iff_takesAll es h.2).1 hrest
      exact ⟨_, mid, first, second, hfirst, hrest, rfl⟩
    · rintro ⟨_, mid, first, second, hfirst, hrest, rfl⟩
      exact ⟨mid, (reads_iff_takes e h.1).2 ⟨first, hfirst⟩,
        (readsAll_iff_takesAll es h.2).2 ⟨second, hrest⟩⟩

theorem readsAny_iff_takesAny (es : List Expr) (h : AllOrdered es) {p q : Place} :
    readsAny es p q ↔ ∃ choices, takesAny es p q choices := by
  match es, h with
  | [], _ => simp [readsAny, takesAny]
  | [e], h => simp [readsAny, takesAny, reads_iff_takes e h.1]
  | e :: e' :: es, h =>
    rw [takesAny_cons_cons]
    show e.Reads p q ∨ readsAny (e' :: es) p q ↔ _
    rw [reads_iff_takes e h.1, readsAny_iff_takesAny (e' :: es) h.2]
    constructor
    · rintro (⟨more, hR⟩ | ⟨more, hR⟩)
      · exact ⟨_, .inl ⟨more, hR, rfl⟩⟩
      · exact ⟨_, .inr ⟨more, hR, rfl⟩⟩
    · rintro ⟨_, ⟨more, hR, -⟩ | ⟨more, hR, -⟩⟩
      · exact .inl ⟨more, hR⟩
      · exact .inr ⟨more, hR⟩

end

mutual

/-- An expression has at most one reading with the same choices. -/
theorem decides_takes (e : Expr) : Decides e.Takes := by
  match e with
  | .empty => rw [Takes]; exact decides_sure fun h h' => h.symm.trans h'
  | .chars set => rw [Takes]; exact decides_sure fun h h' => Option.some.inj (h.symm.trans h')
  | .look l => rw [Takes]; exact decides_sure fun h h' => h.2.symm.trans h'.2
  | .rep min max greedy sub => rw [Takes]; exact decides_repeats (decides_takes sub)
  | .group _ sub => rw [Takes]; exact decides_takes sub
  | .cat parts => rw [Takes]; exact decides_takesAll parts
  | .alt alternatives => rw [Takes]; exact decides_takesAny alternatives

theorem decides_takesAll (es : List Expr) : Decides (takesAll es) := by
  match es with
  | [] => exact decides_sure fun h h' => h.symm.trans h'
  | e :: es => exact decides_andThen (decides_takes e) (decides_takesAll es)

theorem decides_takesAny (es : List Expr) : Decides (takesAny es) := by
  match es with
  | [] => rintro p q q' _ _ _ _ ⟨⟩
  | [e] => exact decides_takes e
  | e :: e' :: es =>
    rw [takesAny_cons_cons]
    exact decides_orElse (decides_takes e) (decides_takesAny (e' :: es))

end

end Expr

end Descent.Pattern
