import Descent.Proofs.Meaning.Contract
import Descent.Proofs.Trace.Invocations
import Descent.Proofs.Trace.Staying

/-!
# Positions that are none

At a position beyond the input or inside a character (`Text.Misplaced`) there is no text to look at,
so that no leaf matches, and no parser of a grammar without functions of its own consumes anything:
what is answered there is about that very position (`Derives.stays`), each invocation on the way is
made there, and no leaf adds to it, so that nothing can go wrong there (`Invocation.Idle`).
-/

namespace Descent

/-! ## Misplaced positions -/

/-- The position is no boundary between characters of the input. -/
inductive Text.Misplaced (input : List Char) (position : Nat) : Prop
  | beyond : byteLength input < position → Misplaced input position
  | inside {front back : List Char} {c : Char} : input = front ++ c :: back →
      byteLength front < position → position < byteLength front + c.utf8Size →
      Misplaced input position

namespace Text

variable {input : List Char} {position : Nat}

/-- Inside a character there is no boundary. -/
theorem suffixAt?_inside {c : Char} {rest : List Char} (hpos : 0 < position)
    (hlt : position < c.utf8Size) : suffixAt? (c :: rest) position = none := by
  obtain ⟨n, rfl⟩ : ∃ n, position = n + 1 := ⟨position - 1, by omega⟩
  rw [suffixAt?, if_neg (by omega)]

theorem Misplaced.suffixAt? (h : Misplaced input position) : suffixAt? input position = none := by
  cases h with
  | beyond h =>
    rw [Option.eq_none_iff_forall_ne_some]
    intro rest hrest
    exact absurd (suffixAt?_eq_some_iff.1 hrest).le_length (Nat.not_le.2 h)
  | @inside front back c heq hfront hc =>
    obtain ⟨n, rfl⟩ : ∃ n, position = byteLength front + n :=
      ⟨position - byteLength front, by omega⟩
    rw [heq, suffixAt?_append]
    exact suffixAt?_inside (by omega) (by omega)

/-- A position that is no boundary is beyond the input, or inside one of its characters. -/
theorem misplaced_iff : Misplaced input position ↔ isBoundary input position = false := by
  rw [isBoundary, Option.isSome_eq_false_iff, Option.isNone_iff_eq_none]
  refine ⟨Misplaced.suffixAt?, fun h => ?_⟩
  induction input generalizing position with
  | nil =>
    cases position with
    | zero => cases h
    | succ n => exact .beyond (Nat.succ_pos n)
  | cons c input ih =>
    by_cases hle : c.utf8Size ≤ position
    · obtain ⟨n, rfl⟩ : ∃ n, position = c.utf8Size + n := ⟨position - c.utf8Size, by omega⟩
      have hrest : suffixAt? input n = none := by
        simpa using (suffixAt?_append [c] input n).symm.trans h
      obtain h | @⟨front, back, d, heq, hfront, hd⟩ := ih hrest
      · exact .beyond (by rw [byteLength_cons]; omega)
      · have hinput : c :: input = (c :: front) ++ d :: back := by rw [heq]; rfl
        refine .inside hinput ?_ ?_
        all_goals
          rw [byteLength_cons]
          omega
    · have hinput : c :: input = [] ++ c :: input := rfl
      refine .inside hinput ?_ (by simpa using hle)
      cases position with
      | zero => simp at h
      | succ n => exact Nat.succ_pos n

end Text

/-! ## Answers at misplaced positions -/

/-- What a step tells is about the position. -/
def Step.Stays (position : Nat) : Step → Prop
  | .ok o => o.next = position
  | .error (.zeroWidthRepetition stalled) => stalled = position
  | .error _ => True

theorem Step.Stays.cons {position : Nat} {step : Step} (h : step.Stays position) (v : Value) :
    (step.cons v).Stays position := by
  unfold Step.cons
  split <;> exact h

section
variable {rules : Rules} {input : List Char} {position : Nat} (hp : Text.Misplaced input position)
include hp

theorem Text.Misplaced.not_at (rest : List Char) : ¬ Text.At input position rest :=
  Text.not_at_of_suffixAt?_eq_none hp.suffixAt? rest

/-- No leaf matches. -/
theorem Recognizes.eq_failure {g : Grammar} {step : Step} (h : Recognizes input position g step)
    (hg : g.standard = true) : step = .ok (.failure position) := by
  cases h with
  | literal hat | charClass hat _ | pattern _ hat _ => exact absurd hat (hp.not_at _)
  | literal_fails _ | charClass_fails _ | pattern_fails _ _ => rfl
  | custom => cases hg

omit hp in
theorem Reshapes.stays {g body : Grammar} {o o' : Outcome Value}
    (h : Reshapes position g body o o') (ho : o.next = position) : o'.next = position := by
  cases h with
  | optional_match | transform_match | transform_fails _ | tryTransform_match _
  | tryTransform_fails _ | tag_accepts _ | tag_rejects _ | tag_fails _ | guarded_accepts _
  | guarded_fails _ => exact ho
  | optional_none _ | tryTransform_none _ | guarded_rejects _ => rfl

omit hp in
theorem Closure.Dangles.stays {c : Closure} {error : GrammarError} (h : c.Dangles rules error) :
    Step.Stays position (.error error) := by
  cases error with
  | zeroWidthRepetition n => exact absurd rfl (h.ne_zeroWidthRepetition n)
  | _ => trivial

/-- What is answered at a misplaced position is about that position. -/
theorem Derives.stays (hrules : rules.Standard) {task : Task} {step : Step}
    {failures : List Failure} (h : Derives rules input task position step failures)
    (hc : ∀ c ∈ task.closures, c.Standard) : step.Stays position := by
  induction h with
  | recognizes h =>
    rw [h.eq_failure hp (hc _ List.mem_cons_self).grammar]
    rfl
  | means hm _ ih =>
    exact ih hp (List.forall_mem_singleton.2 ((hc _ List.mem_cons_self).means hrules hm))
  | dangles hd => exact hd.stays
  | reshapes hr _ ih =>
    have hcl := hc _ List.mem_cons_self
    have hbody := Grammar.standard_of_body? hr.body?_eq hcl.grammar
    exact hr.stays (ih hp (List.forall_mem_singleton.2 (hcl.inner hbody)))
  | labelled_match hg _ _ ih | labelled_fails hg _ _ ih =>
    have hcl := hc _ List.mem_cons_self
    have hbody := Grammar.standard_of_body? (by rw [hg]; rfl) hcl.grammar
    exact ih hp (List.forall_mem_singleton.2 (hcl.inner hbody))
  | body_error hg _ ih =>
    have hcl := hc _ List.mem_cons_self
    have hbody := Grammar.standard_of_body? hg hcl.grammar
    exact ih hp (List.forall_mem_singleton.2 (hcl.inner hbody))
  | sequence hg _ ih | choice hg _ ih =>
    have hcl := hc _ List.mem_cons_self
    have hgs := hcl.grammar
    rw [hg, Grammar.standard] at hgs
    exact ih hp (standard_map_inner hcl hgs)
  | many hg _ ih =>
    have hcl := hc _ List.mem_cons_self
    have hgs := hcl.grammar
    rw [hg, Grammar.standard] at hgs
    exact ih hp (List.forall_mem_singleton.2 (hcl.inner hgs))
  | parts_nil | alternatives_nil => rfl
  | parts_cons _ _ ih ih' =>
    obtain ⟨hcl, hcs⟩ := List.forall_mem_cons.1 hc
    obtain rfl : _ = _ := ih hp (List.forall_mem_singleton.2 hcl)
    exact (ih' hp hcs).cons _
  | parts_fails _ _ ih | parts_error _ ih | alternatives_match _ _ ih | alternatives_error _ ih =>
    exact ih hp (List.forall_mem_singleton.2 (List.forall_mem_cons.1 hc).1)
  | alternatives_next _ _ _ _ ih' => exact ih' hp (List.forall_mem_cons.1 hc).2
  | iterations_stop _ _ ih => rfl
  | iterations_next _ hne _ ih _ => exact absurd (ih hp hc) hne
  | iterations_stall _ _ => rfl
  | iterations_error _ ih => exact ih hp hc

end

/-! ## Invocations -/

/-- A leaf adds the length of what it has found to the position, and the sum exceeds the greatest
position that there is, or it cuts a match out of the input that does not stand there. Nowhere else
does a parser compute a position of its own, or cut a text. -/
inductive Parser.Panics (limit : Nat) (input : List Char) (position : Nat) : Parser → Prop
  | literal {text : String} {rest : List Char} :
      Text.suffixAt? input position = some rest → text.toList.isPrefixOf rest = true →
      limit < position + Text.byteLength text.toList → Panics limit input position (.literal text)
  | charClass {set : String} {negate : Bool} {c : Char} {rest : List Char} :
      Text.suffixAt? input position = some (c :: rest) →
      (set.toList.contains c != negate) = true → limit < position + c.utf8Size →
      Panics limit input position (.charClass set negate)
  | pattern {p : Pattern} {text rest : List Char} :
      Text.suffixAt? input position = some rest → p.match? rest = some text →
      ¬ text <+: rest ∨ limit < position + Text.byteLength text →
      Panics limit input position (.pattern p)

/-- A parser that looks at the input itself. -/
def Parser.isLeaf : Parser → Bool
  | literal _ | charClass _ _ | pattern _ => true
  | _ => false

/-! A leaf computes the position behind its match, and a pattern cuts its match out of the input, so
that the steps above are those that lead to a match. -/

namespace Parser

variable {input : List Char} {limit position next : Nat} {v : Value}

theorem matchLiteral_eq_success_iff {text : String} :
    matchLiteral text input position = .success v next ↔
      ∃ rest, Text.suffixAt? input position = some rest ∧ text.toList.isPrefixOf rest = true ∧
        v = .str text ∧ next = position + Text.byteLength text.toList := by
  unfold matchLiteral
  constructor
  · intro h
    split at h
    · rename_i rest hrest
      split at h
      · rename_i hprefix
        cases h
        exact ⟨rest, hrest, hprefix, rfl, rfl⟩
      · cases h
    · cases h
  · rintro ⟨rest, hrest, hprefix, rfl, rfl⟩
    simp only [hrest, hprefix, if_true]

theorem matchCharClass_eq_success_iff {set : String} {negate : Bool} :
    matchCharClass set negate input position = .success v next ↔
      ∃ c rest, Text.suffixAt? input position = some (c :: rest) ∧
        (set.toList.contains c != negate) = true ∧ v = .ofChars [c] ∧
          next = position + c.utf8Size := by
  unfold matchCharClass
  constructor
  · intro h
    split at h
    · rename_i c rest hrest
      split at h
      · rename_i hc
        cases h
        exact ⟨c, rest, hrest, hc, rfl, rfl⟩
      · cases h
    · cases h
  · rintro ⟨c, rest, hrest, hc, rfl, rfl⟩
    simp only [hrest, hc, if_true]

theorem matchPattern_eq_success_iff {p : Pattern} :
    matchPattern p input position = .success v next ↔
      ∃ rest text, Text.suffixAt? input position = some rest ∧ p.match? rest = some text ∧
        v = .ofChars text ∧ next = position + Text.byteLength text := by
  unfold matchPattern
  constructor
  · intro h
    split at h
    · rename_i text htext
      obtain ⟨rest, hrest, hmatch⟩ := Option.bind_eq_some_iff.1 htext
      cases h
      exact ⟨rest, text, hrest, hmatch, rfl, rfl⟩
    · cases h
  · rintro ⟨rest, text, hrest, hmatch, rfl, rfl⟩
    simp only [hrest, Option.bind_some, hmatch]

/-- A literal panics if the position behind its match is too great. -/
theorem panics_literal_iff {text : String} : (literal text).Panics limit input position ↔
    ∃ v next, matchLiteral text input position = .success v next ∧ limit < next := by
  constructor
  · intro h
    cases h with
    | literal hrest hprefix hlimit =>
      exact ⟨_, _, matchLiteral_eq_success_iff.2 ⟨_, hrest, hprefix, rfl, rfl⟩, hlimit⟩
  · rintro ⟨v, next, hmatch, hlimit⟩
    obtain ⟨rest, hrest, hprefix, -, rfl⟩ := matchLiteral_eq_success_iff.1 hmatch
    exact .literal hrest hprefix hlimit

theorem panics_charClass_iff {set : String} {negate : Bool} :
    (charClass set negate).Panics limit input position ↔
      ∃ v next, matchCharClass set negate input position = .success v next ∧ limit < next := by
  constructor
  · intro h
    cases h with
    | charClass hrest hc hlimit =>
      exact ⟨_, _, matchCharClass_eq_success_iff.2 ⟨_, _, hrest, hc, rfl, rfl⟩, hlimit⟩
  · rintro ⟨v, next, hmatch, hlimit⟩
    obtain ⟨c, rest, hrest, hc, -, rfl⟩ := matchCharClass_eq_success_iff.1 hmatch
    exact .charClass hrest hc hlimit

/-- What a pattern cuts out of the rest of the input stands at its start, so that a pattern too
panics only if the position behind its match is too great. -/
theorem panics_pattern_iff {p : Pattern} : (pattern p).Panics limit input position ↔
    ∃ v next, matchPattern p input position = .success v next ∧ limit < next := by
  constructor
  · intro h
    cases h with
    | pattern hrest hmatch hpanics =>
      obtain hcut | hlimit := hpanics
      · obtain ⟨left, rfl⟩ := Pattern.exists_append_of_match? hmatch
        exact absurd (List.prefix_append _ _) hcut
      · exact ⟨_, _, matchPattern_eq_success_iff.2 ⟨_, _, hrest, hmatch, rfl, rfl⟩, hlimit⟩
  · rintro ⟨v, next, hmatch, hlimit⟩
    obtain ⟨rest, text, hrest, htext, -, rfl⟩ := matchPattern_eq_success_iff.1 hmatch
    exact .pattern hrest htext (.inr hlimit)

end Parser

section
variable {input : List Char} {position : Nat} (hp : Text.Misplaced input position) {p : Parser}
include hp

theorem Text.Misplaced.not_panics (limit : Nat) : ¬ p.Panics limit input position := by
  intro hpanics
  cases hpanics with
  | literal h _ _ | charClass h _ _ | pattern h _ _ => cases hp.suffixAt?.symm.trans h

theorem Text.Misplaced.invoke_leaf {s t : Store} {step : Step} (hleaf : p.isLeaf = true)
    (h : p.invoke input position s = some (step, t)) : step = .ok (.failure position) := by
  obtain ⟨fuel, h⟩ := Parser.invoke_eq_some_iff.1 h
  cases fuel with
  | zero => cases h
  | succ fuel =>
    cases p with
    | literal text =>
      rw [Parser.run, Parser.matchLiteral, hp.suffixAt?] at h
      cases h
      rfl
    | charClass set negate =>
      rw [Parser.run, Parser.matchCharClass, hp.suffixAt?] at h
      cases h
      rfl
    | pattern p =>
      rw [Parser.run, Parser.matchPattern, hp.suffixAt?] at h
      cases h
      rfl
    | _ => cases hleaf

end

namespace Invocation

/-- The invocation is made at the position, and nothing but the position comes of it. -/
structure Idle (input : List Char) (position : Nat) (i : Invocation) : Prop where
  position_eq : i.position = position
  /-- No position is too great for it, and no text is cut. -/
  sound (limit : Nat) : ¬ i.parser.Panics limit input i.position
  /-- Nothing is consumed. -/
  next_eq (o : Outcome Value) (t : Store) : i.result input = some (.ok o, t) → o.next = position
  /-- No leaf matches. -/
  leaf (step : Step) (t : Store) : i.parser.isLeaf = true → i.result input = some (step, t) →
    step = .ok (.failure position)
  /-- A repetition that matches has no iterations. -/
  many (body : Parser) (o : Outcome Value) (t : Store) : i.parser = .many body →
    i.result input = some (.ok o, t) → o = .success (.arr []) position
  /-- A repetition that stalls does so there. -/
  stalled (n : Nat) (t : Store) :
    i.result input = some (.error (.zeroWidthRepetition n), t) → n = position

/-- The parser was built from a definition without functions of its own. -/
def Standard (rules : Rules) (i : Invocation) : Prop :=
  ∃ L E c, Sound rules [] L i.store ∧ Built rules L E i.parser c ∧ c.Standard

end Invocation

section
variable {rules : Rules} {L : Legend} {E : List Nat} {p q : Parser} {c : Closure}

/-- The parts of a parser are built from definitions without functions of their own, if it is. -/
theorem Built.exists_part (hrules : rules.Standard) (h : Built rules L E p c) (hc : c.Standard)
    (hq : q ∈ p.parts) : ∃ c', Built rules L E q c' ∧ c'.Standard := by
  induction h with
  | literal | charClass | pattern | custom | deferred | rule | handle | dangles => cases hq
  | @sequence c gs ps hg hl hb _ | @choice c gs ps hg hl hb _ =>
    obtain ⟨i, hi, rfl⟩ := List.mem_iff_getElem.1 hq
    have hgs := hc.grammar
    rw [hg, Grammar.standard] at hgs
    have hi' : i < gs.length := hl ▸ hi
    exact ⟨_, hb i _ _ (List.getElem?_eq_getElem hi) (List.getElem?_eq_getElem hi'),
      hc.inner (Grammar.standard_of_mem hgs _ (List.getElem_mem hi'))⟩
  | many hg hb _ =>
    obtain rfl := List.mem_singleton.1 hq
    have hgs := hc.grammar
    rw [hg] at hgs
    exact ⟨_, hb, hc.inner hgs⟩
  | optional hg hb _ | transform hg hb _ | tryTransform hg hb _ | tag hg hb _ | guarded hg hb _
  | labelled hg hb _ =>
    obtain rfl := List.mem_singleton.1 hq
    have hbody := Grammar.standard_of_body? (by rw [hg]; rfl) hc.grammar
    exact ⟨_, hb, hc.inner hbody⟩
  | means hm _ ih => exact ih (hc.means hrules hm) hq

/-- Without its first part a sequence is one that could have been built. -/
theorem Built.exists_sequence_tail (hrules : rules.Standard) {qs : List Parser}
    (h : Built rules L E (.sequence (q :: qs)) c) (hc : c.Standard) :
    ∃ c', Built rules L E (.sequence qs) c' ∧ c'.Standard := by
  generalize hp : Parser.sequence (q :: qs) = p at h
  induction h with
  | @sequence c gs ps hg hl hb _ =>
    obtain rfl : q :: qs = ps := by simpa using hp
    have hgs := hc.grammar
    rw [hg, Grammar.standard] at hgs
    match gs, hl with
    | g :: gs, hl =>
      rw [Grammar.standardAll, Bool.and_eq_true] at hgs
      exact ⟨c.inner (.sequence gs), .sequence rfl (Nat.succ.inj hl) fun i p g hi hgi =>
        hb (i + 1) p g hi hgi, hc.inner hgs.2⟩
  | means hm _ ih => exact ih (hc.means hrules hm) hp
  | _ => cases hp

/-- Without its first alternative a choice is one that could have been built. -/
theorem Built.exists_choice_tail (hrules : rules.Standard) {qs : List Parser}
    (h : Built rules L E (.choice (q :: qs)) c) (hc : c.Standard) :
    ∃ c', Built rules L E (.choice qs) c' ∧ c'.Standard := by
  generalize hp : Parser.choice (q :: qs) = p at h
  induction h with
  | @choice c gs ps hg hl hb _ =>
    obtain rfl : q :: qs = ps := by simpa using hp
    have hgs := hc.grammar
    rw [hg, Grammar.standard] at hgs
    match gs, hl with
    | g :: gs, hl =>
      rw [Grammar.standardAll, Bool.and_eq_true] at hgs
      exact ⟨c.inner (.choice gs), .choice rfl (Nat.succ.inj hl) fun i p g hi hgi =>
        hb (i + 1) p g hi hgi, hc.inner hgs.2⟩
  | means hm _ ih => exact ih (hc.means hrules hm) hp
  | _ => cases hp

/-- What a cell, a rule or a handle stands for is in the legend. -/
theorem Built.exists_entry_of_deferred (hrules : rules.Standard) {i : Nat}
    (h : Built rules L E (.deferred i) c) (hc : c.Standard) :
    ∃ e, L.cells[i]? = some (some e) ∧ e.closure.Standard := by
  generalize hp : Parser.deferred i = p at h
  induction h with
  | deferred hi _ =>
    cases hp
    exact ⟨_, hi, hc⟩
  | means hm _ ih => exact ih (hc.means hrules hm) hp
  | _ => cases hp

theorem Built.exists_entry_of_rule (hrules : rules.Standard) {j : Nat}
    (h : Built rules L E p c) (hp : p = .rule j ∨ p = .handle j) (hc : c.Standard) :
    ∃ e, L.slots[j]? = some (some e) ∧ e.closure.Standard := by
  induction h with
  | rule hj _ | handle hj _ =>
    obtain hp | hp := hp <;> cases hp
    exact ⟨_, hj, hc⟩
  | means hm _ ih => exact ih hp (hc.means hrules hm)
  | _ => obtain hp | hp := hp <;> cases hp

end

namespace Invocation

section
variable {rules : Rules} {input : List Char} {i j : Invocation}

/-- The parts are built from such definitions too. -/
theorem Standard.part (hrules : rules.Standard) {p q : Parser} {n : Nat} {s : Store}
    (h : Standard rules ⟨p, n, s⟩) (hq : q ∈ p.parts) : Standard rules ⟨q, n, s⟩ := by
  obtain ⟨L, E, c, hs, hb, hc⟩ := h
  obtain ⟨c', hb', hc'⟩ := hb.exists_part hrules hc hq
  exact ⟨L, E, c', hs, hb', hc'⟩

/-- So is what is left of a parser when its first part has been invoked. -/
theorem Standard.rest (hrules : rules.Standard) {p p' q : Parser} {n next : Nat} {s t : Store}
    {step : Step} (h : Standard rules ⟨p, n, s⟩) (hq : q ∈ p.parts)
    (hrest : ∀ L E c, Built rules L E p c → c.Standard →
      ∃ c', Built rules L E p' c' ∧ c'.Standard)
    (hr : result input ⟨q, n, s⟩ = some (step, t)) : Standard rules ⟨p', next, t⟩ := by
  obtain ⟨L, E, c, hs, hb, hc⟩ := h
  obtain ⟨cq, hbq, -⟩ := hb.exists_part hrules hc hq
  obtain ⟨c', hb', hc'⟩ := hrest L E c hb hc
  obtain ⟨L', failures, ha, -⟩ := derives_of_invoke hbq hs hr
  exact ⟨L', E, c', ha.sound, hb'.mono ha.le (List.Subset.refl _), hc'⟩

/-- What is answered at a misplaced position is about that position. -/
theorem Standard.stays (hrules : rules.Standard) (h : i.Standard rules)
    (hp : Text.Misplaced input i.position) {step : Step} {t : Store}
    (hr : i.result input = some (step, t)) : step.Stays i.position := by
  obtain ⟨L, E, c, hs, hb, hc⟩ := h
  obtain ⟨L', failures, -, hd⟩ := derives_of_invoke hb hs hr
  exact hd.stays hp hrules (List.forall_mem_singleton.2 hc)

/-- The body of a rule was built from such a definition. -/
theorem Standard.body (hrules : rules.Standard) {p q : Parser} {slot n : Nat} {s : Store}
    (h : Standard rules ⟨p, n, s⟩) (hp : p = .rule slot ∨ p = .handle slot)
    (hbody : s.body slot = .ok q) : Standard rules ⟨q, n, s⟩ := by
  obtain ⟨L, E, c, hs, hb, hc⟩ := h
  obtain ⟨e, he, hce⟩ := hb.exists_entry_of_rule hrules hp hc
  obtain ⟨q', hq', hf⟩ := hs.body he
  obtain rfl := Except.ok.inj (hbody.symm.trans hq')
  exact ⟨L, _, _, hs, hf.built, hce⟩

/-- At a misplaced position, an invocation makes others at that position only. -/
theorem Makes.standard (hrules : rules.Standard) (hm : i.Makes input j) (h : i.Standard rules)
    (hp : Text.Misplaced input i.position) : j.Standard rules ∧ j.position = i.position := by
  induction hm with
  | first hparts => exact ⟨h.part hrules (hparts ▸ List.mem_cons_self), rfl⟩
  | deferred =>
    obtain ⟨L, E, c, hs, hb, hc⟩ := h
    obtain ⟨e, he, hce⟩ := hb.exists_entry_of_deferred hrules hc
    obtain ⟨L', -, hs', hf, -⟩ := hs.resolve he
    exact ⟨⟨L', _, _, hs', hf.built, hce⟩, rfl⟩
  | rule hbody => exact ⟨h.body hrules (.inl rfl) hbody, rfl⟩
  | handle hbody => exact ⟨h.body hrules (.inr rfl) hbody, rfl⟩
  | part hq _ ih =>
    obtain rfl : _ = _ := (h.part hrules List.mem_cons_self).stays hrules hp hq
    exact ih (h.rest hrules List.mem_cons_self
      (fun _ _ _ hb hc => hb.exists_sequence_tail hrules hc) hq) hp
  | alternative hq _ _ ih =>
    exact ih (h.rest hrules List.mem_cons_self
      (fun _ _ _ hb hc => hb.exists_choice_tail hrules hc) hq) hp
  | iteration hq hne _ _ =>
    exact absurd ((h.part hrules List.mem_cons_self).stays hrules hp hq) hne

theorem standard_of_reaches (hrules : rules.Standard)
    (hr : Relation.ReflTransGen (Makes input) i j) (h : i.Standard rules)
    (hp : Text.Misplaced input i.position) : j.Standard rules ∧ j.position = i.position := by
  induction hr with
  | refl => exact ⟨h, rfl⟩
  | tail _ hm ih =>
    obtain ⟨hstandard, hposition⟩ := ih
    obtain ⟨hstandard', hposition'⟩ := hm.standard hrules hstandard (hposition ▸ hp)
    exact ⟨hstandard', hposition'.trans hposition⟩

/-- A repetition at a misplaced position has no iterations, unless it stalls. -/
theorem Standard.many (hrules : rules.Standard) {body : Parser} {n : Nat} {s t : Store}
    {o : Outcome Value} (h : Standard rules ⟨.many body, n, s⟩) (hp : Text.Misplaced input n)
    (hr : result input ⟨.many body, n, s⟩ = some (.ok o, t)) : o = .success (.arr []) n := by
  rw [result, Parser.invoke_many] at hr
  obtain ⟨error, -, heq⟩ | ⟨o', s', ho, hnext⟩ := Result.exists_of_andThen hr
  · cases heq
  · have hstays := (h.part hrules List.mem_cons_self).stays hrules hp ho
    cases o' with
    | success v next =>
      obtain rfl : next = n := hstays
      simp at hnext
    | failure next | rejected v next =>
      cases hnext
      rfl

/-- Nothing comes of an invocation at a misplaced position. -/
theorem Standard.idle (hrules : rules.Standard) (h : i.Standard rules)
    (hp : Text.Misplaced input i.position) : i.Idle input i.position where
  position_eq := rfl
  sound := hp.not_panics
  next_eq _ _ hr := h.stays hrules hp hr
  leaf _ _ hleaf hr := hp.invoke_leaf hleaf hr
  many body o t hbody hr := by
    obtain ⟨p, n, s⟩ := i
    obtain rfl : p = .many body := hbody
    exact h.many hrules hp hr
  stalled _ _ hr := h.stays hrules hp hr

/-- All that is reached from an invocation at a misplaced position is idle there. -/
theorem idle_of_reaches (hrules : rules.Standard) (h : i.Standard rules)
    (hp : Text.Misplaced input i.position) (hr : Relation.ReflTransGen (Makes input) i j) :
    j.Idle input i.position := by
  obtain ⟨hstandard, hposition⟩ := standard_of_reaches hrules hr h hp
  rw [← hposition] at hp ⊢
  exact hstandard.idle hrules hp

end

end Invocation

/-! ## What a parser owns -/

section
variable {rules : Rules} {L : Legend} {E : List Nat} {p : Parser} {c : Closure} {s : Store}
  {x : Owned}

theorem Closure.Standard.scope (h : c.Standard) : ∀ a ∈ c.scope, a.2.Standard := by
  cases h; assumption

/-- What a parser mentions was made for definitions without functions of their own. -/
theorem Built.exists_standard_entry (hrules : rules.Standard) (h : Built rules L E p c)
    (hc : c.Standard) (hx : x ∈ p.owns) :
    ∃ e, L.entry? x = some (some e) ∧ e.closure.Standard := by
  induction h with
  | literal | charClass | pattern | custom | handle | dangles => cases hx
  | @sequence c gs ps hg hl _ ih | @choice c gs ps hg hl _ ih =>
    obtain ⟨p, hp, hx⟩ := Parser.mem_ownsAll_iff.1 hx
    obtain ⟨i, hi, rfl⟩ := List.mem_iff_getElem.1 hp
    have hgs := hc.grammar
    rw [hg, Grammar.standard] at hgs
    have hi' : i < gs.length := hl ▸ hi
    exact ih i _ _ (List.getElem?_eq_getElem hi) (List.getElem?_eq_getElem hi')
      (hc.inner (Grammar.standard_of_mem hgs _ (List.getElem_mem hi'))) hx
  | many hg _ ih =>
    have hgs := hc.grammar
    rw [hg] at hgs
    exact ih (hc.inner hgs) hx
  | optional hg _ ih | transform hg _ ih | tryTransform hg _ ih | tag hg _ ih | guarded hg _ ih
  | labelled hg _ ih =>
    exact ih (hc.inner (Grammar.standard_of_body? (by rw [hg]; rfl) hc.grammar)) hx
  | @deferred i e hi _ =>
    obtain rfl : x = .cell i := List.mem_singleton.1 hx
    exact ⟨e, hi, hc⟩
  | @rule j e hj _ =>
    obtain rfl : x = .slot j := List.mem_singleton.1 hx
    exact ⟨e, hj, hc⟩
  | means hm _ ih => exact ih (hc.means hrules hm) hx

theorem ScopeBuilt.exists_standard {scope : Scope} {ρ : List (String × Closure)} {q : Parser}
    (h : ScopeBuilt rules L E scope ρ) (hρ : ∀ a ∈ ρ, a.2.Standard)
    (hq : q ∈ scope.map Prod.snd) : ∃ c, Built rules L E q c ∧ c.Standard := by
  induction h with
  | nil => cases hq
  | cons hab _ ih =>
    obtain ⟨ha, hρ⟩ := List.forall_mem_cons.1 hρ
    obtain rfl | hq := List.mem_cons.1 hq
    · exact ⟨_, hab.2, ha⟩
    · exact ih hρ hq

/-- So was all that it owns. -/
theorem Sound.exists_standard_entry (hrules : rules.Standard) (hs : Sound rules [] L s)
    (hb : Built rules L E p c) (hc : c.Standard) (hx : s.Owns [p] x) :
    ∃ e, L.entry? x = some (some e) ∧ e.closure.Standard := by
  induction hx with
  | root hx =>
    obtain ⟨q, hq, hown⟩ := Parser.mem_ownsAll_iff.1 hx
    obtain rfl := List.mem_singleton.1 hq
    exact hb.exists_standard_entry hrules hc hown
  | @step y x hy hx ih =>
    obtain ⟨e, he, hce⟩ := ih
    cases y with
    | slot j =>
      obtain ⟨q, hq, hf⟩ := hs.slot j e he (List.not_mem_nil)
      simp only [Store.ownedBy, hq] at hx
      exact hf.built.exists_standard_entry hrules hce hx
    | cell i =>
      obtain ⟨cell, hcell, hcs⟩ := hs.cell i e he
      simp only [Store.ownedBy, hcell] at hx
      obtain ⟨q, hq, hx⟩ := Parser.mem_ownsAll_iff.1 hx
      have hbuilt : ∃ c, Built rules L e.within q c ∧ c.Standard := by
        obtain hq | hq := List.mem_append.1 hq
        · exact ⟨_, (hcs.parser q (Option.mem_toList.1 hq)).built, hce⟩
        · exact hcs.scope.exists_standard hce.scope hq
      obtain ⟨c', hb', hc'⟩ := hbuilt
      exact hb'.exists_standard_entry hrules hc' hx

end

/-! ## The main theorem -/

namespace Workshop

section
variable {rules : Rules} {grammar : Grammar} {p : Parser} {u w : Workshop} {store s : Store}

/-- A parser and the handles of its rules were built without functions of input and position. -/
theorem Stays.standard (hrules : rules.Standard) (hg : grammar.standard = true)
    (hb : grammar.build rules [] u.store = (.ok p, store))
    (h : Stays p (settle ⟨p :: u.parsers, store⟩) w) (hs : w.Amid s) {q : Parser}
    (hq : q = p ∨ ∃ j, q = .handle j ∧ s.Owns [p] (.slot j)) (position : Nat) :
    Invocation.Standard rules ⟨q, position, s⟩ := by
  have hbuilt : Intends rules p (grammar.closed rules) (settle ⟨p :: u.parsers, store⟩).store :=
    .settle (w := ⟨_, store⟩) (intends_build hb) List.mem_cons_self
  have hc : (grammar.closed rules).Standard := .mk hg fun _ ha => nomatch ha
  obtain ⟨ts, hplays⟩ := hs
  obtain ⟨L, hsound, hbuilt⟩ := (h.intends hbuilt).plays hplays
  obtain rfl | ⟨j, rfl, ho⟩ := hq
  · exact ⟨L, [], _, hsound, hbuilt, hc⟩
  · obtain ⟨e, he, hce⟩ := hsound.exists_standard_entry hrules hbuilt hc ho
    exact ⟨L, [j], _, hsound, .handle he List.mem_cons_self, hce⟩

/-- At any time in the life of a parser that was built of a grammar without functions of its own,
nothing comes of invoking it, or the handle of a rule that it owns, at a misplaced position: all
invocations on the way are idle, whether or not the first one comes to an end, and if it does, those
are all that take place. -/
theorem misplaced_invocations_are_idle (hrules : rules.Standard) (hg : grammar.standard = true)
    (hb : grammar.build rules [] u.store = (.ok p, store))
    (h : Stays p (settle ⟨p :: u.parsers, store⟩) w) (hs : w.Amid s) {input : List Char}
    {position : Nat} (hp : Text.Misplaced input position) (q : Parser)
    (hq : q = p ∨ ∃ j, q = .handle j ∧ s.Owns [p] (.slot j)) :
    (∀ i, Relation.ReflTransGen (Invocation.Makes input) ⟨q, position, s⟩ i →
      i.Idle input position) ∧
    ∀ inner step t, q.Traces input position s inner step t → ∀ r n deeper step' t',
      (Trace.call r n deeper step' t').Among [.call q position inner step t] →
      ∃ before, Relation.ReflTransGen (Invocation.Makes input) ⟨q, position, s⟩ ⟨r, n, before⟩ ∧
        Invocation.result input ⟨r, n, before⟩ = some (step', t') :=
  have hstandard := h.standard hrules hg hb hs hq position
  ⟨fun _ hi => Invocation.idle_of_reaches hrules hstandard hp hi,
    fun _ _ _ ht _ _ _ _ _ hr => ht.reaches hr⟩

end

/-- Accents of one kind before any number of the other. -/
def accents : Grammar :=
  .recursive "accents" false false
    (.choice [.sequence [.literal "é", .var "accents"], .many (.literal "è")])

/-- Inside the first character, the repetition matches without an iteration. -/
theorem misplaced_invocations_are_idle_accents :
    ∃ p store, accents.build [] [] Store.empty = (.ok p, store) ∧
      p.invoke "éè".toList 1 (settle ⟨[p], store⟩).store =
        some (.ok (.success (.arr []) 1), (settle ⟨[p], store⟩).store) ∧
      ∀ q, q = p ∨ q = .handle 0 → ∀ i,
        Relation.ReflTransGen (Invocation.Makes "éè".toList)
          ⟨q, 1, (settle ⟨[p], store⟩).store⟩ i → i.Idle "éè".toList 1 := by
  let store := (accents.build [] [] Store.empty).2
  let w : Workshop := settle ⟨[.rule 0], store⟩
  have hp : Text.Misplaced "éè".toList 1 := Text.misplaced_iff.2 (by decide)
  have howns : w.store.Owns [.rule 0] (.slot 0) := .root List.mem_cons_self
  refine ⟨.rule 0, store, rfl, Parser.invoke_eq_some_iff.2 ⟨10, rfl⟩, fun q hq => ?_⟩
  refine (@misplaced_invocations_are_idle [] accents (.rule 0) ⟨[], Store.empty⟩ w store w.store
    (fun _ ha => nomatch ha) rfl rfl (.refl List.mem_cons_self) (.refl w) _ 1 hp q ?_).1
  obtain rfl | rfl := hq
  · exact .inl rfl
  · exact .inr ⟨0, rfl, howns⟩

end Workshop

end Descent
