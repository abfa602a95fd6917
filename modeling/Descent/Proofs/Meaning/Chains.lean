import Descent.Proofs.Meaning.Session
import Descent.Proofs.Meaning.Unique

/-!
# The meaning of a chain of assertions

Every check of a chain is about the outcome at the position that the chain has moved to last
(`Assertion.latest`), and about what the grammar answers there, however often and wherever the
parser has been invoked before. A chain passes a link, breaks at it or comes to no end at it, and
all three are told from what the grammar answers (`Links.Passes`, `Links.Breaks`, `Links.Hangs`):
`Links.Concludes` is the end that follows, and going through the checks comes to it.
-/

namespace Descent

namespace Check

/-- The position that a link moves to. -/
def target? : Check → Option Nat
  | .moveTo position => some position
  | _ => none

/-- What a check says of the outcome at a position of the input. -/
def Holds (input : List Char) (position : Nat) (o : Outcome Value) : Check → Prop
  | .moveTo _ => True
  | .matches => o.matched = true
  | .fails => o.matched = false
  | .value expected => o.value? = some expected
  | .noValue => o.value? = none
  | .next expected => o.next = expected
  | .consumesNothing => o.next = position
  | .consumesAll => o.next = Text.byteLength input
  | .rejected v n => o.matched = false ∧ o.value? = some v ∧ o.next = n

end Check

namespace Assertion

/-- The position that the checks behind the links are about. -/
def latest (front : List Check) : Nat := (front.filterMap Check.target?).getLastD 0

/-- The positions of all parses of a chain. -/
def positions (checks : List Check) : List Nat := 0 :: checks.filterMap Check.target?

@[simp] theorem latest_nil : latest [] = 0 := rfl

@[simp] theorem latest_concat_moveTo (front : List Check) (position : Nat) :
    latest (front ++ [.moveTo position]) = position := by
  simp [latest, Check.target?]

theorem latest_concat {check : Check} (h : check.target? = none) (front : List Check) :
    latest (front ++ [check]) = latest front := by
  simp [latest, h]

/-- The first parse is one at the start of the input. -/
@[simp] theorem latest_moveTo_zero (checks : List Check) :
    latest (.moveTo 0 :: checks) = latest checks := by
  simp only [latest, List.filterMap_cons, Check.target?, List.getLastD_cons]

example : latest [.moveTo 3, .matches, .moveTo 1, .consumesNothing] = 1 := rfl

/-! ## Single checks -/

section
variable {input : List Char} {position : Nat} {o : Outcome Value}

theorem checkMatched_eq_ok_iff {expected : Bool} :
    checkMatched expected ⟨input, position, o⟩ = .ok () ↔ o.matched = expected := by
  unfold checkMatched
  split <;> simp_all

theorem checkValue_eq_ok_iff {expected : Value} :
    checkValue expected ⟨input, position, o⟩ = .ok () ↔ o.value? = some expected := by
  unfold checkValue
  split <;> simp_all

theorem checkNoValue_eq_ok_iff :
    checkNoValue ⟨input, position, o⟩ = .ok () ↔ o.value? = none := by
  unfold checkNoValue
  split <;> simp_all

theorem checkNext_eq_ok_iff {expected : Nat} :
    checkNext expected ⟨input, position, o⟩ = .ok () ↔ o.next = expected := by
  unfold checkNext
  split <;> simp_all

theorem bind_eq_ok_iff {first second : Except (List Char) Unit} :
    (do first; second) = .ok () ↔ first = .ok () ∧ second = .ok () := by
  cases first <;> simp [bind, Except.bind]

/-- A check comes to a good verdict just if what it says holds. -/
theorem verdict_eq_ok_iff {check : Check} :
    verdict ⟨input, position, o⟩ check = .ok () ↔ check.Holds input position o := by
  cases check with
  | moveTo => simp [verdict, Check.Holds]
  | «matches» | fails => exact checkMatched_eq_ok_iff
  | value => exact checkValue_eq_ok_iff
  | noValue => exact checkNoValue_eq_ok_iff
  | next | consumesNothing | consumesAll => exact checkNext_eq_ok_iff
  | rejected =>
    rw [verdict, bind_eq_ok_iff, bind_eq_ok_iff, checkMatched_eq_ok_iff, checkValue_eq_ok_iff,
      checkNext_eq_ok_iff, Check.Holds]

end

theorem checkAll_cons {check : Check} (h : check.target? = none) (p : Parser) (a : Assertion)
    (checks : List Check) (store : Store) :
    checkAll p a (check :: checks) store =
      match a.verdict check with
      | .error text => some (.error text, store)
      | .ok () => checkAll p a checks store := by
  cases check <;> first | rfl | cases h

/-- The first parse is a link like those that move. -/
theorem run_eq_checkAll (p : Parser) (input : List Char) (position : Nat) (o : Outcome Value)
    (checks : List Check) (store : Store) :
    run p input checks store = checkAll p ⟨input, position, o⟩ (.moveTo 0 :: checks) store := rfl

end Assertion

/-! ## Links -/

namespace Links

open Assertion

section
variable (answers : Nat → Step → Prop) (input : List Char)

/-- The chain passes the link behind `front`. -/
def Passes (front : List Check) (check : Check) : Prop :=
  match check.target? with
  | some position => ∃ o, answers position (.ok o)
  | none => ∃ o, answers (latest front) (.ok o) ∧ check.Holds input (latest front) o

/-- The chain breaks at the link behind `front`, with a text. -/
def Breaks (front : List Check) (text : List Char) (check : Check) : Prop :=
  match check.target? with
  | some position => ∃ error, answers position (.error error) ∧
      text = errorText input position error
  | none => ∃ o, answers (latest front) (.ok o) ∧ ¬ check.Holds input (latest front) o ∧
      verdict ⟨input, latest front, o⟩ check = .error text

/-- The chain comes to no end at the link. -/
def Hangs (check : Check) : Prop :=
  ∃ position, check.target? = some position ∧ ∀ step, ¬ answers position step

/-- The chain passes all of the links behind `front`. -/
def AllPass (front checks : List Check) : Prop :=
  ∀ mid check back, checks = mid ++ check :: back → Passes answers input (front ++ mid) check

/-- The chain gets to a link behind `front` of which `P` holds. -/
def ComesTo (P : List Check → Check → Prop) (front checks : List Check) : Prop :=
  ∃ mid check back, checks = mid ++ check :: back ∧ AllPass answers input front mid ∧
    P (front ++ mid) check

/-- The end of a chain with the links behind `front`. -/
def Concludes (front checks : List Check) : Option (Except (List Char) (Outcome Value)) → Prop
  | none => ComesTo answers input (fun _ => Hangs answers) front checks
  | some (.error text) =>
    ComesTo answers input (fun front => Breaks answers input front text) front checks
  | some (.ok o) =>
    AllPass answers input front checks ∧ answers (latest (front ++ checks)) (.ok o)

end

section
variable {answers : Nat → Step → Prop} {input : List Char} {front checks : List Check}
  {check : Check} {P : List Check → Check → Prop}

theorem allPass_nil : AllPass answers input front [] := by
  intro mid check back h
  cases mid <;> cases h

theorem allPass_cons : AllPass answers input front (check :: checks) ↔
    Passes answers input front check ∧ AllPass answers input (front ++ [check]) checks := by
  constructor
  · intro h
    refine ⟨by simpa using h [] check checks rfl, fun mid check' back heq => ?_⟩
    simpa using h (check :: mid) check' back (by rw [heq, List.cons_append])
  · rintro ⟨hfirst, h⟩ mid check' back heq
    cases mid with
    | nil =>
      cases heq
      simpa using hfirst
    | cons _ mid =>
      cases heq
      simpa using h mid check' back rfl

theorem not_comesTo_nil : ¬ ComesTo answers input P front [] := by
  rintro ⟨mid, check, back, h, -⟩
  cases mid <;> cases h

theorem comesTo_cons : ComesTo answers input P front (check :: checks) ↔
    P front check ∨
      Passes answers input front check ∧ ComesTo answers input P (front ++ [check]) checks := by
  constructor
  · rintro ⟨mid, check', back, heq, hpass, hP⟩
    cases mid with
    | nil =>
      cases heq
      exact .inl (by simpa using hP)
    | cons _ mid =>
      cases heq
      obtain ⟨hfirst, hpass⟩ := allPass_cons.1 hpass
      exact .inr ⟨hfirst, mid, check', back, rfl, hpass, by simpa using hP⟩
  · rintro (hP | ⟨hfirst, mid, check', back, rfl, hpass, hP⟩)
    · exact ⟨[], check, checks, rfl, allPass_nil, by simpa using hP⟩
    · exact ⟨check :: mid, check', back, rfl, allPass_cons.2 ⟨hfirst, hpass⟩, by simpa using hP⟩

/-- The end of a chain is decided at its first link, if that is not passed. -/
theorem concludes_cons {end? : Option (Except (List Char) (Outcome Value))} :
    Concludes answers input front (check :: checks) end? ↔
      (end? = none ∧ Hangs answers check) ∨
      (∃ text, end? = some (.error text) ∧ Breaks answers input front text check) ∨
      Passes answers input front check ∧
        Concludes answers input (front ++ [check]) checks end? := by
  rcases end? with _ | text | o
  · simp [Concludes, comesTo_cons]
  · simp [Concludes, comesTo_cons]
  · simp [Concludes, allPass_cons, and_assoc]

/-- Nothing happens at the links behind `front` if there are none. -/
theorem concludes_nil (hu : ∀ n step step', answers n step → answers n step' → step = step')
    {o : Outcome Value} (ho : answers (latest front) (.ok o))
    {end? : Option (Except (List Char) (Outcome Value))} :
    Concludes answers input front [] end? ↔ end? = some (.ok o) := by
  rcases end? with _ | text | o'
  · simp [Concludes, not_comesTo_nil]
  · simp [Concludes, not_comesTo_nil]
  · simp only [Concludes, allPass_nil, List.append_nil, true_and, Option.some.injEq,
      Except.ok.injEq]
    exact ⟨fun h => (Except.ok.inj (hu _ _ _ ho h)).symm, fun h => h ▸ ho⟩

/-- A check is about the answer at the latest position. -/
theorem concludes_cons_check (hu : ∀ n step step', answers n step → answers n step' →
      step = step')
    (hcheck : check.target? = none) {o : Outcome Value} (ho : answers (latest front) (.ok o))
    {end? : Option (Except (List Char) (Outcome Value))} :
    Concludes answers input front (check :: checks) end? ↔
      (∃ text, end? = some (.error text) ∧ verdict ⟨input, latest front, o⟩ check = .error text) ∨
      verdict ⟨input, latest front, o⟩ check = .ok () ∧
        Concludes answers input (front ++ [check]) checks end? := by
  have hone : ∀ {P : Outcome Value → Prop}, (∃ o', answers (latest front) (.ok o') ∧ P o') ↔ P o :=
    ⟨fun ⟨o', ho', h⟩ => Except.ok.inj (hu _ _ _ ho' ho) ▸ h, fun h => ⟨o, ho, h⟩⟩
  have hbreaks : ∀ text, Breaks answers input front text check ↔
      verdict ⟨input, latest front, o⟩ check = .error text := by
    intro text
    rw [Breaks, hcheck]
    dsimp only
    rw [hone, ← verdict_eq_ok_iff]
    exact and_iff_right_of_imp fun h => by simp [h]
  have hpasses : Passes answers input front check ↔
      verdict ⟨input, latest front, o⟩ check = .ok () := by
    rw [Passes, hcheck]
    dsimp only
    rw [hone, verdict_eq_ok_iff]
  have hhangs : ¬ Hangs answers check := by simp [Hangs, hcheck]
  simp only [concludes_cons, hhangs, and_false, false_or, hbreaks, hpasses]

/-- A link that moves is about the answer at its position. -/
theorem concludes_cons_moveTo {position : Nat}
    {end? : Option (Except (List Char) (Outcome Value))} :
    Concludes answers input front (.moveTo position :: checks) end? ↔
      (end? = none ∧ ∀ step, ¬ answers position step) ∨
      (∃ error, end? = some (.error (errorText input position error)) ∧
        answers position (.error error)) ∨
      (∃ o, answers position (.ok o)) ∧
        Concludes answers input (front ++ [.moveTo position]) checks end? := by
  rw [concludes_cons]
  refine or_congr (by simp [Hangs, Check.target?]) (or_congr ?_ Iff.rfl)
  constructor
  · rintro ⟨text, rfl, error, h, rfl⟩
    exact ⟨error, rfl, h⟩
  · rintro ⟨error, rfl, h⟩
    exact ⟨_, rfl, error, h, rfl⟩

end

end Links

/-! ## The end of a chain -/

section
variable {rules : Rules} {g : Grammar} {p : Parser} {input : List Char}

theorem Grammar.Answers.unique {position : Nat} {step step' : Step}
    (h : g.Answers rules input position step) (h' : g.Answers rules input position step') :
    step = step' := by
  obtain ⟨_, h⟩ := h
  obtain ⟨_, h'⟩ := h'
  exact (h.unique h').1

/-- A link that moves invokes the parser, and the chain goes on with what the grammar answers. -/
theorem checkAll_moveTo_iff {front checks : List Check} {position : Nat} {L : Legend}
    {store : Store} {a : Assertion} (ha : a.input = input)
    (hb : Built rules L [] p (g.closed rules)) (hs : Sound rules [] L store)
    {end? : Option (Except (List Char) (Outcome Value))}
    (hnext : ∀ o L' store', Built rules L' [] p (g.closed rules) → Sound rules [] L' store' →
      g.Answers rules input position (.ok o) →
      ((Assertion.checkAll p ⟨input, position, o⟩ checks store').map Prod.fst = end? ↔
        Links.Concludes (g.Answers rules input) input (front ++ [.moveTo position]) checks end?)) :
    (Assertion.checkAll p a (.moveTo position :: checks) store).map Prod.fst = end? ↔
      Links.Concludes (g.Answers rules input) input front (.moveTo position :: checks) end? := by
  rw [Links.concludes_cons_moveTo, Assertion.checkAll, ha]
  cases hi : p.invoke input position store with
  | none =>
    have hnone : ∀ step, ¬ g.Answers rules input position step := by
      rintro step ⟨failures, hd⟩
      obtain ⟨_, _, h, -⟩ := invoke_of_derives hb hs hd
      simp [hi] at h
    simp [hnone, eq_comm]
  | some result =>
    obtain ⟨step, store'⟩ := result
    obtain ⟨L', failures, hafter, hd⟩ := derives_of_invoke hb hs hi
    have hanswer : g.Answers rules input position step := ⟨failures, hd⟩
    have hstep : ∀ step', g.Answers rules input position step' ↔ step' = step :=
      fun step' => ⟨fun h => h.unique hanswer, fun h => h ▸ hanswer⟩
    cases step with
    | error error => simp [hstep, eq_comm]
    | ok o =>
      simpa [hstep] using
        hnext o L' store' (hb.mono hafter.le (List.Subset.refl _)) hafter.sound hanswer

/-- A parser of the grammar takes a chain of checks to the end that follows from what the grammar
answers. -/
theorem checkAll_iff_concludes (front checks : List Check) {L : Legend} {store : Store}
    {o : Outcome Value} (hb : Built rules L [] p (g.closed rules)) (hs : Sound rules [] L store)
    (ho : g.Answers rules input (Assertion.latest front) (.ok o))
    {end? : Option (Except (List Char) (Outcome Value))} :
    (Assertion.checkAll p ⟨input, Assertion.latest front, o⟩ checks store).map Prod.fst = end? ↔
      Links.Concludes (g.Answers rules input) input front checks end? := by
  have hu := fun n step step' => @Grammar.Answers.unique rules g input n step step'
  induction checks generalizing front L store o with
  | nil =>
    rw [Links.concludes_nil hu ho, eq_comm]
    rfl
  | cons check checks ih =>
    cases hcheck : check.target? with
    | none =>
      rw [Links.concludes_cons_check hu hcheck ho, Assertion.checkAll_cons hcheck]
      cases hv : Assertion.verdict ⟨input, Assertion.latest front, o⟩ check with
      | error text => simp [eq_comm]
      | ok =>
        have hlatest := Assertion.latest_concat hcheck front
        simpa [hlatest] using ih (front ++ [check]) hb hs (hlatest ▸ ho)
    | some position =>
      obtain rfl : check = .moveTo position := by
        cases check <;> simp_all [Check.target?]
      refine checkAll_moveTo_iff rfl hb hs fun o' L' store' hb' hs' ho' => ?_
      have hlatest := Assertion.latest_concat_moveTo front position
      have ih := @ih (front ++ [.moveTo position]) L' store' o' hb' hs' (by rwa [hlatest])
      rwa [hlatest] at ih

/-- The first parse of a chain is its first link. -/
theorem run_iff_concludes {checks : List Check} {L : Legend} {store : Store}
    (hb : Built rules L [] p (g.closed rules)) (hs : Sound rules [] L store)
    {end? : Option (Except (List Char) (Outcome Value))} :
    (Assertion.run p input checks store).map Prod.fst = end? ↔
      Links.Concludes (g.Answers rules input) input [] (.moveTo 0 :: checks) end? := by
  rw [Assertion.run_eq_checkAll p input 0 (.failure 0)]
  exact checkAll_moveTo_iff rfl hb hs fun o L' store' hb' hs' ho =>
    checkAll_iff_concludes [.moveTo 0] checks hb' hs' ho

end

namespace Links

open Assertion

/-- All links of a chain pass just if no parse of it fails to answer, and all checks hold of the
answer at the latest position. -/
theorem allPass_moveTo_zero_iff {answers : Nat → Step → Prop} {input : List Char}
    {checks : List Check} :
    AllPass answers input [] (.moveTo 0 :: checks) ↔
      (∀ n ∈ positions checks, ∃ o, answers n (.ok o)) ∧
      ∀ front check back, checks = front ++ check :: back → check.target? = none →
        ∃ o, answers (latest front) (.ok o) ∧ check.Holds input (latest front) o := by
  constructor
  · intro h
    obtain ⟨hfirst, h⟩ := allPass_cons.1 h
    refine ⟨fun n hn => ?_, fun front check back heq hcheck => ?_⟩
    · obtain rfl | hn := List.mem_cons.1 hn
      · exact hfirst
      · obtain ⟨check, hmem, hn⟩ := List.mem_filterMap.1 hn
        obtain ⟨mid, back, heq⟩ := List.append_of_mem hmem
        simpa [Passes, hn] using h mid check back heq
    · simpa [Passes, hcheck] using h front check back heq
  · rintro ⟨hparses, hchecks⟩
    refine allPass_cons.2 ⟨hparses 0 List.mem_cons_self, fun front check back heq => ?_⟩
    cases hcheck : check.target? with
    | none => simpa [Passes, hcheck] using hchecks front check back heq hcheck
    | some n =>
      have hmem : check ∈ checks := by simp [heq]
      have hn : n ∈ positions checks :=
        List.mem_cons_of_mem _ (List.mem_filterMap.2 ⟨check, hmem, hcheck⟩)
      simpa [Passes, hcheck] using hparses n hn

end Links

namespace Session

open Assertion Links

/-- However a session has been used, a chain of assertions about its parser is a conjunction. It
completes with the answer at the last position just if every parse of it answers and every check
holds of the answer at the latest position; it breaks with the text of the first link that does not
pass; and it comes to no end just if its first parse to fail to answer comes to none. -/
theorem check_chain {rules : Rules} {grammar : Grammar} {options : ReaderOptions}
    {tracked : Bool} {s₀ s : Session} {store : Store}
    (hstart : start rules grammar options tracked = (.ok s₀, store))
    (hreach : Session.Reaches s₀ s) (input : List Char) (checks : List Check) :
    let answers := grammar.Answers rules input
    let chain := s.use fun reader => Assertion.run reader.parser input checks
    (∀ o, (∃ s', chain = some (.ok o, s')) ↔
      (∀ n ∈ positions checks, ∃ o', answers n (.ok o')) ∧
      (∀ front check back, checks = front ++ check :: back → check.target? = none →
        ∃ o', answers (latest front) (.ok o') ∧ check.Holds input (latest front) o') ∧
      answers (latest checks) (.ok o)) ∧
    (∀ text, (∃ s', chain = some (.error text, s')) ↔
      ∃ front check back, .moveTo 0 :: checks = front ++ check :: back ∧
        AllPass answers input [] front ∧ Breaks answers input front text check) ∧
    (chain = none ↔
      ∃ front check back, .moveTo 0 :: checks = front ++ check :: back ∧
        AllPass answers input [] front ∧ Hangs answers check) := by
  intro answers chain
  obtain ⟨reader, L, hr, hb, hs, -⟩ := (sound_start hstart).reaches hreach
  have hchain : chain = (Assertion.run reader.parser input checks s.store).map
      fun result => (result.1, s.settle result.2) := by
    simp only [chain, Session.use, hr]
  have hverdict : ∀ v, (∃ s', chain = some (v, s')) ↔
      Concludes answers input [] (.moveTo 0 :: checks) (some v) := by
    intro v
    rw [← run_iff_concludes hb hs, hchain]
    simp [Option.map_eq_some_iff]
  have hnone : chain = none ↔ Concludes answers input [] (.moveTo 0 :: checks) none := by
    rw [← run_iff_concludes hb hs, hchain]
    simp
  refine ⟨fun o => ?_, fun text => ?_, ?_⟩
  · rw [hverdict, Concludes, allPass_moveTo_zero_iff, and_assoc, List.nil_append,
      latest_moveTo_zero]
  · simpa [ComesTo, Concludes] using hverdict (.error text)
  · simpa [ComesTo, Concludes] using hnone

/-- Of a session that has filled its cell: all chains that complete, one of them, and one that
breaks at a check that held at the position before. -/
theorem check_chain_nested :
    ∃ s₀ s store, start [] nested {} true = (.ok s₀, store) ∧ Session.Reaches s₀ s ∧
      (∀ (input : List Char) (checks : List Check) (o : Outcome Value),
        (∃ s', (s.use fun reader => Assertion.run reader.parser input checks) =
          some (.ok o, s')) ↔
        (∀ n ∈ positions checks, ∃ o', nested.Answers [] input n (.ok o')) ∧
        (∀ front check back, checks = front ++ check :: back → check.target? = none →
          ∃ o', nested.Answers [] input (latest front) (.ok o') ∧
            check.Holds input (latest front) o') ∧
        nested.Answers [] input (latest checks) (.ok o)) ∧
      (∃ s', (s.use fun reader => Assertion.run reader.parser "(x)".toList
        [.consumesAll, .moveTo 1, .next 2]) = some (.ok (.success (.str "x") 2), s')) ∧
      ∃ s', (s.use fun reader => Assertion.run reader.parser "(x)".toList
        [.consumesAll, .moveTo 1, .consumesAll]) =
          some (.error (comparisonText "next position" "(x)".toList 1 ['2'] ['3']), s') := by
  let built := nested.build [] [] Store.empty
  let s₀ := settle ⟨some { parser := .rule 0, tracked := true }, built.2⟩ built.2
  obtain ⟨s, s', hs, hs'⟩ : ∃ s s',
      s₀.invoke "(x)".toList 0 = some (.ok (.success (.arr [.str "(", .str "x", .str ")"]) 3), s) ∧
        s.invoke "(x)".toList 1 = some (.ok (.success (.str "x") 2), s') :=
    ⟨_, _, @invoke_of_run s₀ _ _ 0 10 _ _ rfl rfl, @invoke_of_run _ _ _ 1 10 _ _ rfl rfl⟩
  have hstart : start [] nested {} true = (.ok s₀, built.2) := rfl
  have hreach : Session.Reaches s₀ s := .step .refl (.invoke hs)
  -- What the two invocations answer is what the grammar answers.
  obtain ⟨failures, houter, -⟩ := (sound_start hstart).exists_derives hs
  obtain ⟨failures', hinner, -⟩ := ((sound_start hstart).reaches hreach).exists_derives hs'
  have hfront : ∀ links, AllPass (nested.Answers [] "(x)".toList) "(x)".toList
      [.moveTo 0, .consumesAll, .moveTo 1] links →
      AllPass (nested.Answers [] "(x)".toList) "(x)".toList []
        (.moveTo 0 :: .consumesAll :: .moveTo 1 :: links) := fun links h =>
    allPass_cons.2 ⟨⟨_, _, houter⟩, allPass_cons.2 ⟨⟨_, ⟨_, houter⟩, rfl⟩,
      allPass_cons.2 ⟨⟨_, _, hinner⟩, h⟩⟩⟩
  refine ⟨s₀, s, _, hstart, hreach, fun input checks => (check_chain hstart hreach input checks).1,
    ?_, ?_⟩
  · have hall := hfront [.next 2] (allPass_cons.2 ⟨⟨_, ⟨_, hinner⟩, rfl⟩, allPass_nil⟩)
    obtain ⟨hparses, hchecks⟩ := allPass_moveTo_zero_iff.1 hall
    exact ((check_chain hstart hreach _ _).1 _).2 ⟨hparses, hchecks, _, hinner⟩
  · have hends : ¬ Check.consumesAll.Holds "(x)".toList 1 (.success (.str "x") 2) := by
      change ¬ 2 = 3
      decide
    exact ((check_chain hstart hreach _ _).2.1 _).2
      ⟨[.moveTo 0, .consumesAll, .moveTo 1], .consumesAll, [], rfl, hfront [] allPass_nil,
        _, ⟨_, hinner⟩, hends, rfl⟩

end Session

end Descent
