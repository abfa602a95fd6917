import Mathlib.Data.List.Forall2
import Descent.Proofs.Pattern.Reading

/-!
# Simplified expressions

`Expr.Simplifies` lists the laws by which expressions are simplified: lists are flattened,
repetitions of what consumes nothing are dropped, classes merged and a common start taken out of
alternatives. Alternatives stay in their order, and repetitions as greedy as they are. The smart
constructors `Expr.ofParts`, `Expr.ofRep` and `Expr.ofAlternatives` follow these laws, none of which
changes what is read (`Expr.Simplifies.means`). The last one may change what is preferred: after a
common start that can end in several places, the choice between the rests is made at each of these
places in turn.
-/

namespace Descent

/-! ## Sets of characters -/

namespace CharSet

/-- Whether one of the ranges includes the code point of `c`. -/
def InRanges (c : Char) (ranges : List (Nat × Nat)) : Prop :=
  ∃ range ∈ ranges, range.1 ≤ c.toNat ∧ c.toNat ≤ range.2

variable {c : Char}

@[simp] theorem inRanges_nil : InRanges c [] ↔ False := by simp [InRanges]

@[simp] theorem inRanges_cons (range : Nat × Nat) (ranges : List (Nat × Nat)) :
    InRanges c (range :: ranges) ↔
      (range.1 ≤ c.toNat ∧ c.toNat ≤ range.2) ∨ InRanges c ranges := by
  simp [InRanges]

theorem contains_iff {s : CharSet} : s.contains c = true ↔ InRanges c s.ranges := by
  simp [contains, InRanges]

/-- There is no character between the end of a range and the start of one that it touches. -/
theorem le_of_le_after {lo hi : Nat} (h : lo ≤ after hi) (hhi : hi < c.toNat) : lo ≤ c.toNat := by
  have hc : c.toNat < 0xD800 ∨ 0xDFFF < c.toNat := by
    have hvalid := c.valid
    have hval : c.toNat = c.val.toNat := rfl
    simp only [UInt32.isValidChar, Nat.isValidChar] at hvalid
    omega
  unfold after at h
  split at h <;> omega

theorem inRanges_insertRange {lo hi : Nat} (ranges : List (Nat × Nat)) :
    InRanges c (insertRange lo hi ranges) ↔
      (lo ≤ c.toNat ∧ c.toNat ≤ hi) ∨ InRanges c ranges := by
  induction ranges generalizing lo hi with
  | nil => simp [insertRange]
  | cons range rest ih =>
    obtain ⟨a, b⟩ := range
    rw [insertRange]
    split
    · simp
    split
    · simp [ih, or_left_comm]
    next hlo hhi =>
      have h₁ := le_of_le_after (c := c) (Nat.le_of_not_lt hlo)
      have h₂ := le_of_le_after (c := c) (Nat.le_of_not_lt hhi)
      rw [ih, inRanges_cons, ← or_assoc]
      refine or_congr_left ?_
      omega

theorem contains_union {s t : CharSet} :
    (s.union t).contains c = true ↔ s.contains c = true ∨ t.contains c = true := by
  simp only [contains_iff, union]
  induction s.ranges with
  | nil => simp
  | cons range ranges ih => simp [inRanges_insertRange, ih, or_assoc]

theorem contains_unions {sets : List CharSet} :
    (unions sets).contains c = true ↔ ∃ s ∈ sets, s.contains c = true := by
  induction sets with
  | nil => simp [unions, contains, empty]
  | cons s sets ih => simp [unions, contains_union, ← ih]

end CharSet

namespace Pattern

/-! ## Readings -/

namespace Reading

variable {R : Reading} {p q : Place} {set : CharSet}

theorem char_unions {sets : List CharSet} :
    char (CharSet.unions sets) p q ↔ ∃ s ∈ sets, char s p q := by
  simp only [char_iff, CharSet.contains_unions]
  constructor
  · rintro ⟨c, ⟨s, hs, hc⟩, h⟩
    exact ⟨s, hs, c, hc, h⟩
  · rintro ⟨s, hs, c, hc, h⟩
    exact ⟨c, ⟨s, hs, hc⟩, h⟩

/-- What reads nothing reads the same however often it is repeated. -/
theorem times_succ_of_le_eq (h : ∀ p q, R p q → p = q) (n : Nat) : R.times (n + 1) = R := by
  induction n with
  | zero => simp [times]
  | succ n ih =>
    funext p q
    rw [times, ih]
    refine propext ⟨?_, fun hR => ?_⟩
    · rintro ⟨mid, hR, hR'⟩
      exact h _ _ hR ▸ hR'
    · exact ⟨q, hR, h _ _ hR ▸ hR⟩

theorem counted_zero : R.counted 0 (some 0) = Eq := by
  funext p q
  simp [counted, times]

theorem counted_one : R.counted 1 (some 1) = R := by
  funext p q
  refine propext ⟨?_, fun h => ⟨1, by simp, by simp, by simpa [times] using h⟩⟩
  rintro ⟨n, hmin, hmax, h⟩
  obtain rfl : n = 1 := by simp at hmax; omega
  simpa [times] using h

/-- Of what reads nothing, one iteration is as good as many. -/
theorem counted_of_le_eq (h : ∀ p q, R p q → p = q) (min : Nat) (max : Option Nat) :
    (∀ m ∈ max, min ≤ m) →
      R.counted (Nat.min min 1) (some (match max with | some n => Nat.min n 1 | none => 1)) =
        R.counted min max := by
  intro hmax
  funext p q
  simp only [Nat.min]
  refine propext ⟨?_, ?_⟩
  · rintro ⟨n, hmin, hle, hR⟩
    cases n with
    | zero => exact ⟨0, by omega, by simp, hR⟩
    | succ n =>
      have hle := hle _ rfl
      refine ⟨Nat.pred min + 1, by simp; omega, fun m hm => ?_, ?_⟩
      · have := hmax m hm
        cases hm
        simp at hle ⊢
        omega
      · rw [times_succ_of_le_eq h] at hR ⊢
        exact hR
  · rintro ⟨n, hmin, hle, hR⟩
    cases n with
    | zero => exact ⟨0, by omega, by simp, hR⟩
    | succ n =>
      refine ⟨1, by omega, ?_, ?_⟩
      · cases max with
        | none => simp
        | some m =>
          have := hle m rfl
          simp
          omega
      · rw [times_succ_of_le_eq h] at hR ⊢
        exact hR

end Reading

namespace Expr

/-! ## Equality -/

mutual

theorem eq_of_beq : ∀ e e' : Expr, beq e e' = true → e = e'
  | empty, e', h => by cases e' <;> simp_all [beq]
  | chars _, e', h => by cases e' <;> simp_all [beq]
  | look _, e', h => by cases e' <;> simp_all [beq]
  | rep _ _ _ sub, e', h => by
    cases e' with
    | rep _ _ _ sub' =>
      simp only [beq, Bool.and_eq_true, beq_iff_eq] at h
      simp [h, eq_of_beq sub sub' h.2]
    | _ => simp [beq] at h
  | group _ sub, e', h => by
    cases e' with
    | group _ sub' =>
      simp only [beq, Bool.and_eq_true, beq_iff_eq] at h
      simp [h, eq_of_beq sub sub' h.2]
    | _ => simp [beq] at h
  | cat es, e', h => by
    cases e' with
    | cat es' => rw [eq_of_beqList es es' (by simpa [beq] using h)]
    | _ => simp [beq] at h
  | alt es, e', h => by
    cases e' with
    | alt es' => rw [eq_of_beqList es es' (by simpa [beq] using h)]
    | _ => simp [beq] at h

theorem eq_of_beqList : ∀ es es' : List Expr, beqList es es' = true → es = es'
  | [], es', h => by cases es' <;> simp_all [beqList]
  | e :: es, [], h => by simp [beqList] at h
  | e :: es, e' :: es', h => by
    simp only [beqList, Bool.and_eq_true] at h
    rw [eq_of_beq e e' h.1, eq_of_beqList es es' h.2]

end

/-! ## Bounds in order -/

theorem allOrdered_iff {es : List Expr} : AllOrdered es ↔ ∀ e ∈ es, e.Ordered := by
  induction es with
  | nil => simp [AllOrdered]
  | cons e es ih => simp [AllOrdered, ih]

theorem allOrdered_append {es es' : List Expr} :
    AllOrdered (es ++ es') ↔ AllOrdered es ∧ AllOrdered es' := by
  simp [allOrdered_iff, or_imp, forall_and]

/-- An expression with its bounds in order and what it reads. -/
structure Means (e : Expr) (R : Reading) : Prop where
  ordered : e.Ordered
  reads : e.Reads = R

/-! ## What is read -/

theorem readsAll_append (es es' : List Expr) :
    readsAll (es ++ es') = Relation.Comp (readsAll es) (readsAll es') := by
  induction es with
  | nil => simp [readsAll]
  | cons e es ih => rw [List.cons_append, readsAll, ih, readsAll, Relation.comp_assoc]

theorem readsAll_singleton (e : Expr) : readsAll [e] = e.Reads := by simp [readsAll]

theorem readsAny_iff {es : List Expr} {p q : Place} :
    readsAny es p q ↔ ∃ e ∈ es, e.Reads p q := by
  induction es with
  | nil => simp [readsAny]
  | cons e es ih => simp [readsAny, ih]

theorem readsAny_map {α : Type} {f : α → Expr} {as : List α} {p q : Place} :
    readsAny (as.map f) p q ↔ ∃ a ∈ as, (f a).Reads p q := by
  induction as with
  | nil => simp [readsAny]
  | cons a as ih => simp [readsAny, ih]

theorem readsAny_append (es es' : List Expr) :
    readsAny (es ++ es') = fun p q => readsAny es p q ∨ readsAny es' p q := by
  funext p q
  simp [readsAny_iff, or_and_right, exists_or]

theorem readsAny_singleton (e : Expr) : readsAny [e] = e.Reads := by simp [readsAny]

/-- Classes to choose from are one class. -/
theorem reads_unions (sets : List CharSet) :
    (chars (CharSet.unions sets)).Reads = readsAny (sets.map chars) := by
  funext p q
  rw [Reads, Reading.char_unions, readsAny_map]
  simp only [Reads]

/-- A start that all alternatives share is read before the choice between their rests. -/
theorem reads_sharedStart (start : List Expr) (rests : List (List Expr)) :
    (cat (start ++ [alt (rests.map cat)])).Reads =
      (alt (rests.map fun rest => cat (start ++ rest))).Reads := by
  rw [Reads, readsAll_append, readsAll_singleton, Reads, Reads]
  funext p q
  simp only [Relation.Comp, readsAny_map, Reads, readsAll_append]
  refine propext ⟨?_, ?_⟩
  · rintro ⟨mid, hstart, rest, hmem, hrest⟩
    exact ⟨rest, hmem, mid, hstart, hrest⟩
  · rintro ⟨rest, hmem, mid, hstart, hrest⟩
    exact ⟨mid, hstart, rest, hmem, hrest⟩

theorem ordered_sharedStart {start : List Expr} {rests : List (List Expr)} (hne : rests ≠ [])
    (h : (alt (rests.map fun rest => cat (start ++ rest))).Ordered) :
    (cat (start ++ [alt (rests.map cat)])).Ordered := by
  have heach : ∀ rest ∈ rests, AllOrdered start ∧ AllOrdered rest := by
    intro rest hmem
    exact allOrdered_append.1 (allOrdered_iff.1 h _ (List.mem_map.2 ⟨rest, hmem, rfl⟩))
  have hrests : AllOrdered (rests.map cat) := by
    refine allOrdered_iff.2 fun e he => ?_
    obtain ⟨rest, hmem, rfl⟩ := List.mem_map.1 he
    exact (heach rest hmem).2
  obtain ⟨rest, hmem⟩ := List.exists_mem_of_ne_nil rests hne
  exact allOrdered_append.2 ⟨(heach rest hmem).1, hrests, trivial⟩

mutual

/-- An expression that consumes nothing as far as lengths tell does not move. -/
theorem eq_of_maxLength : ∀ (e : Expr) {p q : Place}, e.maxLength = some 0 → e.Reads p q → p = q
  | empty, _, _, _, h => by simpa [Reads] using h
  | chars set, _, _, h, _ => by
    rw [maxLength] at h
    split at h <;> simp at h
  | look l, _, _, _, h => by
    rw [Reads] at h
    exact h.2
  | rep min max greedy sub, p, q, h, hR => by
    obtain ⟨n, -, hmax, hR⟩ := hR
    unfold maxLength at h
    cases n with
    | zero => exact hR
    | succ n =>
      split at h
      next m k hk =>
        have hmk : m * k = 0 := Option.some.inj h
        have hle : n + 1 ≤ m := hmax m rfl
        have hsub : sub.maxLength = some 0 := by
          rw [hk, (Nat.mul_eq_zero.1 hmk).resolve_left (by omega)]
        rw [Reading.times_succ_of_le_eq fun _ _ => eq_of_maxLength sub hsub] at hR
        exact eq_of_maxLength sub hsub hR
      next => simp at h
  | group _ sub, _, _, h, hR => eq_of_maxLength sub h hR
  | cat parts, _, _, h, hR => eq_of_sumMaxLength parts h hR
  | alt alternatives, _, _, h, hR => eq_of_greatestMaxLength alternatives h hR

theorem eq_of_sumMaxLength : ∀ (es : List Expr) {p q : Place}, sumMaxLength es = some 0 →
    readsAll es p q → p = q
  | [], _, _, _, h => by simpa [readsAll] using h
  | e :: es, _, _, h, ⟨mid, hR, hR'⟩ => by
    rw [sumMaxLength] at h
    split at h <;> simp at h
    next he hes =>
      exact (eq_of_maxLength e (by simpa [h] using he) hR).trans
        (eq_of_sumMaxLength es (by simpa [h] using hes) hR')

theorem eq_of_greatestMaxLength : ∀ (es : List Expr) {p q : Place},
    greatestMaxLength es = some 0 → readsAny es p q → p = q
  | [], _, _, h, _ => by simp [greatestMaxLength] at h
  | [e], _, _, h, hR => by
    exact eq_of_maxLength e h (hR.resolve_right id)
  | e :: e' :: es, _, _, h, hR => by
    unfold greatestMaxLength at h
    split at h <;> simp at h
    next he hes =>
      rcases hR with hR | hR
      · exact eq_of_maxLength e (by simpa [h] using he) hR
      · exact eq_of_greatestMaxLength (e' :: es) (by simpa [h] using hes) hR

end

/-! ## Laws -/

/-- The laws by which expressions are simplified. -/
inductive Simplifies : Expr → Expr → Prop
  | refl (e : Expr) : Simplifies e e
  | trans {e e' e'' : Expr} : Simplifies e e' → Simplifies e' e'' → Simplifies e e''
  | inRep (min : Nat) (max : Option Nat) (greedy : Bool) {sub sub' : Expr} : Simplifies sub sub' →
      Simplifies (rep min max greedy sub) (rep min max greedy sub')
  | inGroup (index : Nat) {sub sub' : Expr} : Simplifies sub sub' →
      Simplifies (group index sub) (group index sub')
  | inCat (before after : List Expr) {e e' : Expr} : Simplifies e e' →
      Simplifies (cat (before ++ e :: after)) (cat (before ++ e' :: after))
  | inAlt (before after : List Expr) {e e' : Expr} : Simplifies e e' →
      Simplifies (alt (before ++ e :: after)) (alt (before ++ e' :: after))
  | catNil : Simplifies (cat []) empty
  | catSingleton (e : Expr) : Simplifies (cat [e]) e
  | emptyInCat (before after : List Expr) :
      Simplifies (cat (before ++ empty :: after)) (cat (before ++ after))
  | catInCat (before es after : List Expr) :
      Simplifies (cat (before ++ cat es :: after)) (cat (before ++ (es ++ after)))
  | repNone (greedy : Bool) (sub : Expr) : Simplifies (rep 0 (some 0) greedy sub) empty
  | repOnce (greedy : Bool) (sub : Expr) : Simplifies (rep 1 (some 1) greedy sub) sub
  /-- Of what consumes nothing, one iteration is as good as many. -/
  | repIdle (min : Nat) (max : Option Nat) (greedy : Bool) {sub : Expr} :
      sub.maxLength = some 0 →
      Simplifies (rep min max greedy sub)
        (rep (min.min 1) (some (match max with | some n => n.min 1 | none => 1)) greedy sub)
  | altNil : Simplifies (alt []) fail
  | altSingleton (e : Expr) : Simplifies (alt [e]) e
  | altInAlt (before es after : List Expr) :
      Simplifies (alt (before ++ alt es :: after)) (alt (before ++ (es ++ after)))
  | classes (sets : List CharSet) :
      Simplifies (alt (sets.map chars)) (chars (CharSet.unions sets))
  /-- The start that all alternatives share stands before the choice between their rests. -/
  | sharedStart (start : List Expr) {rests : List (List Expr)} : rests ≠ [] →
      Simplifies (alt (rests.map fun rest => cat (start ++ rest)))
        (cat (start ++ [alt (rests.map cat)]))

/-- The laws keep what is read, and bounds in order. -/
theorem Simplifies.means {e e' : Expr} (h : Simplifies e e') (ho : e.Ordered) :
    e'.Means e.Reads := by
  induction h with
  | refl e => exact ⟨ho, rfl⟩
  | trans _ _ ih ih' =>
    have hmid := ih ho
    have hlast := ih' hmid.ordered
    exact ⟨hlast.ordered, hlast.reads.trans hmid.reads⟩
  | inRep min max greedy _ ih =>
    have hsub := ih ho.2
    exact ⟨⟨ho.1, hsub.ordered⟩, by rw [Reads, Reads, hsub.reads]⟩
  | inGroup index _ ih =>
    have hsub := ih ho
    exact ⟨hsub.ordered, by rw [Reads, Reads, hsub.reads]⟩
  | inCat before after _ ih =>
    obtain ⟨hbefore, hpart, hafter⟩ := allOrdered_append.1 ho
    have hmeans := ih hpart
    refine ⟨allOrdered_append.2 ⟨hbefore, hmeans.ordered, hafter⟩, ?_⟩
    rw [Reads, Reads, readsAll_append, readsAll_append, readsAll, readsAll, hmeans.reads]
  | inAlt before after _ ih =>
    obtain ⟨hbefore, hpart, hafter⟩ := allOrdered_append.1 ho
    have hmeans := ih hpart
    refine ⟨allOrdered_append.2 ⟨hbefore, hmeans.ordered, hafter⟩, ?_⟩
    rw [Reads, Reads, readsAny_append, readsAny_append, readsAny, readsAny, hmeans.reads]
  | catNil => exact ⟨trivial, by rw [Reads, Reads, readsAll]⟩
  | catSingleton e => exact ⟨ho.1, by rw [Reads, readsAll_singleton]⟩
  | emptyInCat before after =>
    obtain ⟨hbefore, -, hafter⟩ := allOrdered_append.1 ho
    refine ⟨allOrdered_append.2 ⟨hbefore, hafter⟩, ?_⟩
    rw [Reads, Reads, readsAll_append, readsAll_append, readsAll, Reads, Relation.eq_comp]
  | catInCat before es after =>
    obtain ⟨hbefore, hes, hafter⟩ := allOrdered_append.1 ho
    refine ⟨allOrdered_append.2 ⟨hbefore, allOrdered_append.2 ⟨hes, hafter⟩⟩, ?_⟩
    rw [Reads, Reads, readsAll_append, readsAll_append, readsAll_append, readsAll, Reads]
  | repNone greedy sub => exact ⟨trivial, by rw [Reads, Reads, Reading.counted_zero]⟩
  | repOnce greedy sub => exact ⟨ho.2, by rw [Reads, Reading.counted_one]⟩
  | @repIdle min max greedy sub hidle =>
    have heq := fun p q => eq_of_maxLength (p := p) (q := q) sub hidle
    refine ⟨⟨?_, ho.2⟩, by rw [Reads, Reads, Reading.counted_of_le_eq heq min max ho.1]⟩
    rintro m ⟨rfl⟩
    cases max with
    | none => exact Nat.min_le_right _ _
    | some n =>
      have := ho.1 n rfl
      simp only [Nat.min]
      omega
  | altNil =>
    refine ⟨trivial, ?_⟩
    funext p q
    simp [fail, Reads, Reading.not_char_empty, readsAny]
  | altSingleton e => exact ⟨ho.1, by rw [Reads, readsAny_singleton]⟩
  | altInAlt before es after =>
    obtain ⟨hbefore, hes, hafter⟩ := allOrdered_append.1 ho
    refine ⟨allOrdered_append.2 ⟨hbefore, allOrdered_append.2 ⟨hes, hafter⟩⟩, ?_⟩
    rw [Reads, Reads, readsAny_append, readsAny_append, readsAny_append, readsAny, Reads]
  | classes sets => exact ⟨trivial, by rw [reads_unions, Reads]⟩
  | sharedStart start hne => exact ⟨ordered_sharedStart hne ho, reads_sharedStart start _⟩

/-- Lists are simplified part by part. -/
theorem simplifies_each {node : List Expr → Expr}
    (hnode : ∀ before after {e e' : Expr}, Simplifies e e' →
      Simplifies (node (before ++ e :: after)) (node (before ++ e' :: after)))
    {es es' : List Expr} (h : List.Forall₂ Simplifies es es') (before : List Expr) :
    Simplifies (node (before ++ es)) (node (before ++ es')) := by
  induction h generalizing before with
  | nil => exact .refl _
  | @cons e e' es es' he _ ih =>
    have hrest := ih (before ++ [e'])
    rw [List.append_assoc, List.append_assoc] at hrest
    exact .trans (hnode before es he) hrest

/-! ## Smart constructors -/

theorem simplifies_parts (before : List Expr) (e : Expr) (after : List Expr) :
    Simplifies (cat (before ++ e :: after)) (cat (before ++ (e.parts ++ after))) := by
  cases e with
  | empty => exact .emptyInCat before after
  | cat es => exact .catInCat before es after
  | _ => exact .refl _

theorem simplifies_flatMap_parts (before es : List Expr) :
    Simplifies (cat (before ++ es)) (cat (before ++ es.flatMap parts)) := by
  induction es generalizing before with
  | nil => exact .refl _
  | cons e es ih =>
    have hrest := ih (before ++ e.parts)
    rw [List.append_assoc, List.append_assoc] at hrest
    rw [List.flatMap_cons]
    exact .trans (simplifies_parts before e es) hrest

theorem simplifies_ofParts (es : List Expr) : Simplifies (cat es) (ofParts es) := by
  have hflat := simplifies_flatMap_parts [] es
  unfold ofParts
  rw [List.nil_append, List.nil_append] at hflat
  generalize es.flatMap parts = es' at hflat
  split
  · exact hflat.trans .catNil
  · exact hflat.trans (.catSingleton _)
  · exact hflat

/-- A repetition, where none is nothing and one is the expression itself. -/
theorem simplifies_rep (min : Nat) (max : Option Nat) (greedy : Bool) (sub : Expr) :
    Simplifies (rep min max greedy sub)
      (match min, max with
      | 0, some 0 => empty
      | 1, some 1 => sub
      | min', max' => rep min' max' greedy sub) := by
  split
  · exact .repNone greedy sub
  · exact .repOnce greedy sub
  · exact .refl _

theorem simplifies_ofRep (min : Nat) (max : Option Nat) (greedy : Bool) (sub : Expr) :
    Simplifies (rep min max greedy sub) (ofRep min max greedy sub) := by
  unfold ofRep
  by_cases hidle : sub.maxLength == some 0
  · simp only [hidle, if_true]
    exact .trans (.repIdle min max greedy (by simpa using hidle)) (simplifies_rep _ _ greedy sub)
  · simp only [hidle]
    exact simplifies_rep min max greedy sub

theorem simplifies_alternatives (before : List Expr) (e : Expr) (after : List Expr) :
    Simplifies (alt (before ++ e :: after)) (alt (before ++ (e.alternatives ++ after))) := by
  cases e with
  | alt es => exact .altInAlt before es after
  | _ => exact .refl _

theorem simplifies_flatMap_alternatives (before es : List Expr) :
    Simplifies (alt (before ++ es)) (alt (before ++ es.flatMap alternatives)) := by
  induction es generalizing before with
  | nil => exact .refl _
  | cons e es ih =>
    have hrest := ih (before ++ e.alternatives)
    rw [List.append_assoc, List.append_assoc] at hrest
    rw [List.flatMap_cons]
    exact .trans (simplifies_alternatives before e es) hrest

theorem eq_map_of_mapM {α β : Type} {f : α → Option β} {g : β → α}
    (hfg : ∀ a b, f a = some b → a = g b) {as : List α} {bs : List β}
    (h : as.mapM f = some bs) : as = bs.map g := by
  induction as generalizing bs with
  | nil =>
    obtain rfl : [] = bs := by simpa using h
    rfl
  | cons a as ih =>
    rw [List.mapM_cons] at h
    obtain ⟨b, hb, h⟩ := Option.bind_eq_some_iff.1 h
    obtain ⟨bs', hbs, h⟩ := Option.bind_eq_some_iff.1 h
    obtain rfl : b :: bs' = bs := by simpa using h
    rw [List.map_cons, ← ih hbs, ← hfg a b hb]

theorem eq_chars_of_class? (e : Expr) (set : CharSet) (h : e.class? = some set) :
    e = chars set := by
  cases e <;> simp_all [class?]

theorem eq_cat_of_sequence? (e : Expr) (parts : List Expr) (h : e.sequence? = some parts) :
    e = cat parts := by
  cases e <;> simp_all [sequence?]

theorem prefixes_commonStart (es es' : List Expr) :
    commonStart es es' <+: es ∧ commonStart es es' <+: es' := by
  induction es generalizing es' with
  | nil => simp [commonStart]
  | cons e es ih =>
    cases es' with
    | nil => simp [commonStart]
    | cons e' es' =>
      rw [commonStart]
      split
      · next h =>
        obtain rfl : e = e' := eq_of_beq e e' h
        simpa using ih es'
      · simp

theorem prefixes_foldl_commonStart (first : List Expr) (others : List (List Expr)) :
    others.foldl commonStart first <+: first ∧
      ∀ parts ∈ others, others.foldl commonStart first <+: parts := by
  induction others generalizing first with
  | nil => simp
  | cons second others ih =>
    obtain ⟨hfirst, hothers⟩ := ih (commonStart first second)
    have hcommon := prefixes_commonStart first second
    simp only [List.foldl_cons, List.forall_mem_cons]
    exact ⟨hfirst.trans hcommon.1, hfirst.trans hcommon.2, hothers⟩

theorem sharedStart_isPrefixOf {sequences : List (List Expr)} :
    ∀ parts ∈ sequences, sharedStart sequences <+: parts := by
  match sequences with
  | [] => simp
  | [first] => simp [sharedStart]
  | first :: second :: others =>
    exact List.forall_mem_cons.2 (prefixes_foldl_commonStart first (second :: others))

/-- The start that the sequences share stands before the choice between their rests. -/
theorem simplifies_factored {sequences : List (List Expr)} {choice : Expr}
    (hne : sharedStart sequences ≠ []) (h : Simplifies
      (alt (sequences.map fun parts => ofParts (parts.drop (sharedStart sequences).length)))
      choice) :
    Simplifies (alt (sequences.map cat)) (ofParts (sharedStart sequences ++ [choice])) := by
  generalize hstart : sharedStart sequences = start at hne h ⊢
  have hparts : ∀ parts ∈ sequences, start ++ parts.drop start.length = parts := by
    intro parts hmem
    obtain ⟨rest, rfl⟩ := hstart ▸ sharedStart_isPrefixOf parts hmem
    rw [List.drop_left]
  let rests := sequences.map (List.drop start.length)
  have hsplit : sequences.map cat = rests.map fun rest => cat (start ++ rest) := by
    rw [List.map_map]
    exact List.map_congr_left fun parts hmem => by rw [Function.comp, hparts parts hmem]
  have hrests : Simplifies (alt (rests.map cat)) choice := by
    refine .trans ?_ h
    have hofParts : List.Forall₂ Simplifies (rests.map cat)
        (sequences.map fun parts => ofParts (parts.drop start.length)) := by
      rw [List.map_map, List.forall₂_map_left_iff, List.forall₂_map_right_iff, List.forall₂_same]
      exact fun parts _ => simplifies_ofParts _
    exact simplifies_each .inAlt hofParts []
  have hrests_ne : rests ≠ [] := by
    rintro hnil
    obtain rfl : sequences = [] := List.map_eq_nil_iff.1 hnil
    exact hne hstart.symm
  rw [hsplit]
  exact .trans (.sharedStart start hrests_ne)
    (.trans (.inCat start [] hrests) (simplifies_ofParts _))

theorem simplifies_ofAlternativesWithin (fuel : Nat) (es : List Expr) :
    Simplifies (alt es) (ofAlternativesWithin fuel es) := by
  induction fuel generalizing es with
  | zero => exact .refl _
  | succ fuel ih =>
    have hflat := simplifies_flatMap_alternatives [] es
    rw [List.nil_append, List.nil_append] at hflat
    refine hflat.trans ?_
    rw [ofAlternativesWithin]
    generalize es.flatMap alternatives = es
    split
    · exact .altNil
    · exact .altSingleton _
    split
    · next sets hsets =>
      obtain rfl := eq_map_of_mapM eq_chars_of_class? hsets
      exact .classes sets
    split
    · exact .refl _
    next sequences hsequences =>
      obtain rfl := eq_map_of_mapM eq_cat_of_sequence? hsequences
      split
      · exact .refl _
      next hne => exact simplifies_factored hne (ih _)

theorem simplifies_ofAlternatives (es : List Expr) : Simplifies (alt es) (ofAlternatives es) :=
  simplifies_ofAlternativesWithin _ es

end Expr

end Pattern

end Descent
