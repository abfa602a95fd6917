import Descent.Proofs.Meaning.Knot
import Descent.Proofs.Meaning.Unique

/-!
# Left factoring

Alternatives that all begin with the same definition may be written as one, with a choice behind
what they share (`Session.left_factoring`). The shared definition is then invoked once and not once
for each alternative. What it answers does not change with the number of times, and what it records
again the tracker knows already (`Tracker.Knows`), also with other records in between.
-/

namespace Descent

/-! ## Records made again -/

namespace Tracker

/-- A failure that is no news: to record it changes nothing. -/
def Knows (tracker : Tracker) (failure : Failure) : Prop :=
  tracker.record failure.position failure.label = tracker

variable {tracker : Tracker} {failure : Failure} {failures : List Failure}

/-- What is known are the failures before the farthest position, and the labels there. -/
theorem knows_iff : tracker.Knows failure ↔ ∃ farthest, tracker.farthest? = some farthest ∧
    (failure.position < farthest.position ∨
      failure.position = farthest.position ∧ failure.label ∈ farthest.expected) := by
  obtain ⟨_ | ⟨n, labels⟩⟩ := tracker
  · simp [Knows, record]
  · simp only [Knows, record, Option.some.injEq, exists_eq_left']
    by_cases hlt : failure.position < n
    · simp [hlt]
    · by_cases heq : failure.position = n
      · by_cases hmem : failure.label ∈ labels <;> simp [heq, hmem]
      · simp [hlt, heq]

theorem knows_record (tracker : Tracker) (failure : Failure) :
    (tracker.record failure.position failure.label).Knows failure := by
  rw [knows_iff]
  obtain ⟨_ | ⟨n, labels⟩⟩ := tracker
  · exact ⟨_, rfl, .inr ⟨rfl, List.mem_singleton_self _⟩⟩
  · simp only [record]
    by_cases hlt : failure.position < n
    · simp [hlt]
    · by_cases heq : failure.position = n
      · by_cases hmem : failure.label ∈ labels <;> simp [heq, hmem]
      · simp [hlt, heq]

/-- What is known stays known. -/
theorem Knows.record (h : tracker.Knows failure) (position : Nat) (label : String) :
    (tracker.record position label).Knows failure := by
  obtain ⟨⟨n, labels⟩, hf, hknown⟩ := knows_iff.1 h
  rw [knows_iff]
  unfold Tracker.record
  simp only [hf]
  dsimp only at hknown
  by_cases hlt : position < n
  · simpa [hlt, hf] using hknown
  · by_cases heq : position = n
    · by_cases hmem : label ∈ labels
      · simpa [heq, hmem, hf] using hknown
      · rcases hknown with hbefore | ⟨hthere, hlabel⟩
        · simp [heq, hmem, hbefore]
        · simp [heq, hmem, hthere, hlabel]
    · have hbefore : failure.position < position := by omega
      simp [hlt, heq, hbefore]

theorem Knows.recordAll (h : tracker.Knows failure) (failures : List Failure) :
    (tracker.recordAll failures).Knows failure := by
  induction failures generalizing tracker with
  | nil => exact h
  | cons f failures ih => exact ih (h.record f.position f.label)

/-- What has been recorded is known. -/
theorem knows_recordAll (h : failure ∈ failures) (tracker : Tracker) :
    (tracker.recordAll failures).Knows failure := by
  induction failures generalizing tracker with
  | nil => cases h
  | cons f failures ih =>
    rcases List.mem_cons.1 h with rfl | h
    · exact (knows_record tracker failure).recordAll failures
    · exact ih h _

/-- To record what is known changes nothing. -/
theorem recordAll_of_knows (h : ∀ failure ∈ failures, tracker.Knows failure) :
    tracker.recordAll failures = tracker := by
  induction failures with
  | nil => rfl
  | cons f failures ih =>
    obtain ⟨hf, hrest⟩ := List.forall_mem_cons.1 h
    show (tracker.record f.position f.label).recordAll failures = tracker
    rw [hf, ih hrest]

theorem recordAll_again (failures : List Failure) (tracker : Tracker) :
    (tracker.recordAll failures).recordAll failures = tracker.recordAll failures :=
  recordAll_of_knows fun _ hf => knows_recordAll hf tracker

end Tracker

/-! ## Shared beginnings -/

namespace Grammar

/-- Alternatives that all begin with `a`. -/
def distributed (a : Grammar) (bs : List Grammar) : Grammar :=
  .choice (bs.map fun b => .sequence [a, b])

/-- What all alternatives begin with, and a choice behind it. -/
def factored (a : Grammar) (bs : List Grammar) : Grammar := .choice [.sequence [a, .choice bs]]

/-- Neither way gives an error of building where the other does not. -/
theorem faultWith_distributed {named : String → Option GrammarError} {a : Grammar}
    {bs : List Grammar} (hbs : bs ≠ []) :
    (distributed a bs).faultWith named = (factored a bs).faultWith named := by
  have hall : ∀ bs : List Grammar, bs ≠ [] →
      faultAll named (bs.map fun b => .sequence [a, b]) =
        (a.faultWith named).or (faultAll named bs) := by
    intro bs hbs
    induction bs with
    | nil => exact absurd rfl hbs
    | cons b bs ih =>
      rw [List.map_cons, faultAll, faultWith, faultAll, faultAll, faultAll, faultAll]
      cases bs with
      | nil => simp [faultAll]
      | cons b' bs =>
        rw [ih (List.cons_ne_nil b' bs)]
        cases a.faultWith named <;> simp
  rw [distributed, factored, faultWith, hall bs hbs]
  simp [faultWith, faultAll]

end Grammar

/-- What a sequence of two comes to, where the first part has matched with `v`. -/
def Step.paired (v : Value) : Step → Step
  | .ok (.success w next) => .ok (.success (.arr [v, w]) next)
  | .ok o => .ok (.failure o.next)
  | .error error => .error error

section
variable {rules : Rules} {input : List Char} {c : Closure} {a b : Grammar} {bs : List Grammar}
  {position next : Nat} {v : Value} {step : Step} {failures failures' : List Failure}

/-- The second part starts where the first has stopped. -/
theorem derives_paired
    (ha : Derives rules input (.whole (c.inner a)) position (.ok (.success v next)) failures)
    (hb : Derives rules input (.whole (c.inner b)) next step failures') :
    Derives rules input (.whole (c.inner (.sequence [a, b]))) position (step.paired v)
      (failures ++ failures') := by
  refine .sequence rfl ?_
  match step with
  | .ok (.success w last) =>
    have h := Derives.parts_cons ha (.parts_cons hb .parts_nil)
    rwa [List.append_nil] at h
  | .ok (.failure last) | .ok (.rejected w last) => exact .parts_cons ha (.parts_fails hb rfl)
  | .error error => exact .parts_cons ha (.parts_error hb)

theorem derives_paired_fails {o : Outcome Value}
    (ha : Derives rules input (.whole (c.inner a)) position (.ok o) failures)
    (ho : o.matched = false) :
    Derives rules input (.whole (c.inner (.sequence [a, b]))) position (.ok (.failure o.next))
      failures :=
  .sequence rfl (.parts_fails ha ho)

theorem derives_paired_error {error : GrammarError}
    (ha : Derives rules input (.whole (c.inner a)) position (.error error) failures) :
    Derives rules input (.whole (c.inner (.sequence [a, b]))) position (.error error) failures :=
  .sequence rfl (.parts_error ha)

/-- The first part has answered, and the second one where the first has matched. -/
theorem exists_of_derives_paired
    (h : Derives rules input (.whole (c.inner (.sequence [a, b]))) position step failures) :
    ∃ step₁ failures₁, Derives rules input (.whole (c.inner a)) position step₁ failures₁ ∧
      ∀ v next, step₁ = .ok (.success v next) →
        ∃ step₂ failures₂, Derives rules input (.whole (c.inner b)) next step₂ failures₂ := by
  cases (derives_sequence_iff rfl).1 h with
  | parts_error ha => exact ⟨_, _, ha, nofun⟩
  | parts_fails ha ho =>
    refine ⟨_, _, ha, ?_⟩
    rintro v next heq
    cases heq
    cases ho
  | parts_cons ha hrest =>
    refine ⟨_, _, ha, ?_⟩
    rintro v next heq
    cases heq
    cases hrest with
    | parts_error hb | parts_fails hb _ | parts_cons hb _ => exact ⟨_, _, hb⟩

/-! ## Alternatives behind a shared beginning -/

/-- What the alternatives come to, where what they begin with has matched with `v` and the rest has
come to this. -/
def Step.behind (v : Value) (position : Nat) : Step → Step
  | .ok (.success w next) => .ok (.success (.arr [v, w]) next)
  | .ok _ => .ok (.failure position)
  | .error error => .error error

/-- The alternatives answer where the choice behind what they share does. Once what is shared has
been recorded, they record the same. -/
theorem derives_alternatives_behind {rest : List Failure}
    (ha : Derives rules input (.whole (c.inner a)) position (.ok (.success v next)) failures)
    (hbs : Derives rules input (.alternatives (bs.map c.inner)) next step rest) :
    ∃ failures', Derives rules input
        (.alternatives ((bs.map fun b => .sequence [a, b]).map c.inner)) position
        (step.behind v position) failures' ∧
      (bs ≠ [] → failures <+: failures') ∧
      ∀ tracker : Tracker, (∀ f ∈ failures, tracker.Knows f) →
        tracker.recordAll failures' = tracker.recordAll rest := by
  induction bs generalizing rest with
  | nil =>
    cases hbs
    exact ⟨[], .alternatives_nil, fun h => absurd rfl h, fun _ _ => rfl⟩
  | cons b bs ih =>
    -- Each alternative records the failures of what is shared again, which changes nothing.
    cases hbs with
    | alternatives_match hb ho =>
      rename_i o
      obtain ⟨w, last⟩ | _ | _ := o <;> cases ho
      refine ⟨failures ++ rest, .alternatives_match (derives_paired ha hb) rfl,
        fun _ => List.prefix_append .., fun tracker hk => ?_⟩
      rw [Tracker.recordAll_append, Tracker.recordAll_of_knows hk]
    | alternatives_error hb =>
      refine ⟨failures ++ rest, .alternatives_error (derives_paired ha hb),
        fun _ => List.prefix_append .., fun tracker hk => ?_⟩
      rw [Tracker.recordAll_append, Tracker.recordAll_of_knows hk]
    | @alternatives_next _ _ _ o _ failed later hb ho hrest =>
      obtain ⟨failures', hd, -, htracker⟩ := ih hrest
      have hpair : Derives rules input (.whole (c.inner (.sequence [a, b]))) position
          (.ok (.failure o.next)) (failures ++ failed) := by
        have := derives_paired ha hb
        cases o with
        | success => cases ho
        | failure last | rejected w last => exact this
      refine ⟨(failures ++ failed) ++ failures', .alternatives_next hpair rfl hd,
        fun _ => ⟨failed ++ failures', by simp⟩, fun tracker hk => ?_⟩
      rw [Tracker.recordAll_append, Tracker.recordAll_append, Tracker.recordAll_append,
        Tracker.recordAll_of_knows hk]
      exact htracker _ fun f hf => (hk f hf).recordAll failed

/-- Where the alternatives answer, so does the choice behind what they share. -/
theorem exists_derives_behind
    (ha : Derives rules input (.whole (c.inner a)) position (.ok (.success v next)) failures)
    (h : Derives rules input (.alternatives ((bs.map fun b => .sequence [a, b]).map c.inner))
      position step failures') :
    ∃ step' rest, Derives rules input (.alternatives (bs.map c.inner)) next step' rest := by
  induction bs generalizing failures' with
  | nil => exact ⟨_, _, .alternatives_nil⟩
  | cons b bs ih =>
    -- What is shared matches as it does on its own: the alternative answers by its other part.
    have second : ∀ {step : Step} {failures : List Failure},
        Derives rules input (.whole (c.inner (.sequence [a, b]))) position step failures →
        ∃ step₂ failures₂, Derives rules input (.whole (c.inner b)) next step₂ failures₂ ∧
          step = step₂.paired v := by
      intro step failures hd
      obtain ⟨step₁, failures₁, ha', hb⟩ := exists_of_derives_paired hd
      obtain ⟨rfl, -⟩ := ha'.unique ha
      obtain ⟨step₂, failures₂, hb⟩ := hb v next rfl
      exact ⟨step₂, failures₂, hb, (hd.unique (derives_paired ha hb)).1⟩
    cases h with
    | alternatives_match hd ho =>
      obtain ⟨_ | ⟨w, last⟩ | last | ⟨w, last⟩, failures₂, hb, heq⟩ := second hd <;> cases heq
      · exact ⟨_, _, .alternatives_match hb rfl⟩
      · cases ho
      · cases ho
    | alternatives_error hd =>
      obtain ⟨_ | ⟨w, last⟩ | last | ⟨w, last⟩, failures₂, hb, heq⟩ := second hd <;> cases heq
      exact ⟨_, _, .alternatives_error hb⟩
    | alternatives_next hd _ hrest =>
      obtain ⟨step', rest, hrest'⟩ := ih hrest
      obtain ⟨_ | ⟨w, last⟩ | last | ⟨w, last⟩, failures₂, hb, heq⟩ := second hd
      · cases heq
      · exact ⟨_, _, .alternatives_match hb rfl⟩
      · exact ⟨_, _, .alternatives_next hb rfl hrest'⟩
      · exact ⟨_, _, .alternatives_next hb rfl hrest'⟩

/-- Where what is shared does not match, no alternative does, and nothing else is recorded. -/
theorem derives_alternatives_failing {o : Outcome Value}
    (ha : Derives rules input (.whole (c.inner a)) position (.ok o) failures)
    (ho : o.matched = false) (bs : List Grammar) :
    ∃ failures', Derives rules input
        (.alternatives ((bs.map fun b => .sequence [a, b]).map c.inner)) position
        (.ok (.failure position)) failures' ∧
      (bs ≠ [] → failures <+: failures') ∧
      ∀ tracker : Tracker, (∀ f ∈ failures, tracker.Knows f) →
        tracker.recordAll failures' = tracker.recordAll [] := by
  induction bs with
  | nil => exact ⟨[], .alternatives_nil, fun h => absurd rfl h, fun _ _ => rfl⟩
  | cons b bs ih =>
    obtain ⟨failures', hd, -, htracker⟩ := ih
    refine ⟨failures ++ failures', .alternatives_next (derives_paired_fails ha ho) rfl hd,
      fun _ => List.prefix_append .., fun tracker hk => ?_⟩
    rw [Tracker.recordAll_append, Tracker.recordAll_of_knows hk]
    exact htracker tracker hk

/-- What is shared is known once it has been recorded. -/
theorem Tracker.recordAll_of_prefix {rest : List Failure} (hp : failures <+: failures')
    (h : ∀ tracker : Tracker, (∀ f ∈ failures, tracker.Knows f) →
      tracker.recordAll failures' = tracker.recordAll rest) (tracker : Tracker) :
    tracker.recordAll failures' = tracker.recordAll (failures ++ rest) := by
  obtain ⟨later, rfl⟩ := hp
  have hk : ∀ f ∈ failures, (tracker.recordAll failures).Knows f :=
    fun _ hf => knows_recordAll hf tracker
  rw [recordAll_append _ rest, ← h _ hk, recordAll_append, recordAll_append, recordAll_again]

/-! ## Both ways side by side -/

/-- A choice of one. -/
theorem derives_choice_behind
    (h : Derives rules input (.whole (c.inner (.sequence [a, b]))) position (step.paired v)
      failures) :
    Derives rules input (.whole (c.inner (.choice [.sequence [a, b]]))) position
      (step.behind v position) failures := by
  refine .choice rfl ?_
  obtain error | ⟨w, last⟩ | last | ⟨w, last⟩ := step
  · exact .alternatives_error h
  · exact .alternatives_match h rfl
  · have hnone := Derives.alternatives_next h rfl .alternatives_nil
    rwa [List.append_nil] at hnone
  · have hnone := Derives.alternatives_next h rfl .alternatives_nil
    rwa [List.append_nil] at hnone

/-- Where what is shared answers, and the choice behind it where that matches, both ways answer the
same and record the same. -/
theorem exists_derives_both {step₁ : Step}
    (ha : Derives rules input (.whole (c.inner a)) position step₁ failures)
    (hb : ∀ v next, step₁ = .ok (.success v next) →
      ∃ step₂ rest, Derives rules input (.alternatives (bs.map c.inner)) next step₂ rest)
    (hbs : bs ≠ []) :
    ∃ step records records',
      Derives rules input (.whole (c.inner (.distributed a bs))) position step records ∧
      Derives rules input (.whole (c.inner (.factored a bs))) position step records' ∧
      ∀ tracker : Tracker, tracker.recordAll records = tracker.recordAll records' := by
  obtain error | o := step₁
  · obtain ⟨b, bs, rfl⟩ := List.exists_cons_of_ne_nil hbs
    exact ⟨.error error, failures, failures,
      .choice rfl (.alternatives_error (derives_paired_error ha)),
      .choice rfl (.alternatives_error (derives_paired_error ha)), fun _ => rfl⟩
  · cases ho : o.matched with
    | false =>
      obtain ⟨records, hd, hp, htracker⟩ := derives_alternatives_failing ha ho bs
      exact ⟨.ok (.failure position), records, failures ++ [], .choice rfl hd,
        .choice rfl (.alternatives_next (derives_paired_fails ha ho) rfl .alternatives_nil),
        Tracker.recordAll_of_prefix (hp hbs) htracker⟩
    | true =>
      obtain ⟨v, next⟩ | _ | _ := o <;> cases ho
      obtain ⟨step₂, rest, hrest⟩ := hb v next rfl
      obtain ⟨records, hd, hp, htracker⟩ := derives_alternatives_behind ha hrest
      have hchoice : Derives rules input (.whole (c.inner (.choice bs))) next step₂ rest :=
        .choice rfl hrest
      exact ⟨step₂.behind v position, records, failures ++ rest, .choice rfl hd,
        derives_choice_behind (derives_paired ha hchoice),
        Tracker.recordAll_of_prefix (hp hbs) htracker⟩

/-- What comes first in alternatives has answered. -/
theorem exists_derives_first {c' : Closure} {cs : List Closure}
    (h : Derives rules input (.alternatives (c' :: cs)) position step failures) :
    ∃ step₁ failures₁, Derives rules input (.whole c') position step₁ failures₁ := by
  cases h with
  | alternatives_match hd _ | alternatives_next hd _ _ | alternatives_error hd => exact ⟨_, _, hd⟩

/-- Both ways answer the same, and leave the same in any tracker. -/
theorem derives_factored_iff (hbs : bs ≠ []) (tracker tracker' : Tracker) :
    (∃ records, Derives rules input (.whole (c.inner (.distributed a bs))) position step records ∧
        tracker' = tracker.recordAll records) ↔
      ∃ records, Derives rules input (.whole (c.inner (.factored a bs))) position step records ∧
        tracker' = tracker.recordAll records := by
  constructor
  · rintro ⟨records, hd, rfl⟩
    have halternatives := (derives_choice_iff rfl).1 hd
    obtain ⟨b, bs, rfl⟩ := List.exists_cons_of_ne_nil hbs
    obtain ⟨_, _, hfirst⟩ := exists_derives_first halternatives
    obtain ⟨step₁, failures₁, ha, -⟩ := exists_of_derives_paired hfirst
    obtain ⟨step', records₁, records₂, hd', hf, htracker⟩ :=
      exists_derives_both ha (fun v next heq => by
        subst heq
        exact exists_derives_behind ha halternatives) hbs
    obtain ⟨rfl, rfl⟩ := hd.unique hd'
    exact ⟨records₂, hf, htracker tracker⟩
  · rintro ⟨records, hf, rfl⟩
    obtain ⟨_, _, hfirst⟩ := exists_derives_first ((derives_choice_iff rfl).1 hf)
    obtain ⟨step₁, failures₁, ha, hb⟩ := exists_of_derives_paired hfirst
    obtain ⟨step', records₁, records₂, hd, hf', htracker⟩ :=
      exists_derives_both ha (fun v next heq => by
        obtain ⟨step₂, rest, hrest⟩ := hb v next heq
        exact ⟨step₂, rest, (derives_choice_iff (c := c.inner (.choice bs)) rfl).1 hrest⟩) hbs
    obtain ⟨rfl, rfl⟩ := hf.unique hf'
    exact ⟨records₁, hd, (htracker tracker).symm⟩

end

/-! ## Sessions -/

namespace Session

/-- Left factoring is sound, in what is answered and in what is recorded: whatever the names in scope
mean, and for sessions, where the definitions may share others that are bound around them. Either way
gives a parser where the other does; and in sessions whose trackers know the same, however they have
been used, an invocation answers the same, leaves the same in the trackers, and comes to an end where
the other does. -/
theorem left_factoring (rules : Rules) (a : Grammar) (bs : List Grammar) (hbs : bs ≠ []) :
    (∀ (c : Closure) (input : List Char) (position : Nat) (step : Step)
      (tracker tracker' : Tracker),
      (∃ records, Derives rules input (.whole (c.inner (.distributed a bs))) position step records ∧
          tracker' = tracker.recordAll records) ↔
        ∃ records, Derives rules input (.whole (c.inner (.factored a bs))) position step records ∧
          tracker' = tracker.recordAll records) ∧
    ∀ (captured : List (String × Grammar)) (options : ReaderOptions) (tracked : Bool),
      ((∃ s store, start rules (.bindAll captured (.distributed a bs)) options tracked =
          (.ok s, store)) ↔
        ∃ t store, start rules (.bindAll captured (.factored a bs)) options tracked =
          (.ok t, store)) ∧
      ∀ s₀ s t₀ t store store',
        start rules (.bindAll captured (.distributed a bs)) options tracked = (.ok s₀, store) →
        start rules (.bindAll captured (.factored a bs)) options tracked = (.ok t₀, store') →
        Reaches s₀ s → Reaches t₀ t → s.store.tracker = t.store.tracker →
        ∀ (input : List Char) (position : Nat) (step : Step) (tracker : Tracker),
          (∃ s', s.invoke input position = some (step, s') ∧ s'.store.tracker = tracker) ↔
            ∃ t', t.invoke input position = some (step, t') ∧ t'.store.tracker = tracker := by
  refine ⟨fun c input position step => derives_factored_iff hbs,
    fun captured options tracked => ⟨?_, ?_⟩⟩
  · rw [exists_start_iff, exists_start_iff,
      Grammar.fault_bindAll_congr (fun _ _ => rfl) (Grammar.faultWith_distributed hbs)]
  · intro s₀ s t₀ t store store' hstart hstart' hs ht htracker input position step tracker
    rw [invoke_iff_derives hstart hs, invoke_iff_derives hstart' ht, htracker, Grammar.closed,
      Grammar.closed]
    simp only [derives_meaning_iff (Closure.means_bindAll _ _ captured [])]
    exact derives_factored_iff (c := ⟨a, rules.length, Closure.captures rules.length captured []⟩)
      hbs _ tracker

/-- A letter that is built when it is first asked for, and two marks that may stand behind it. -/
def letter : List (String × Grammar) :=
  [("letter", .deferred (.labelled "letter" (.charClass "xyz" false)))]

def marks : List Grammar := [.labelled "'!'" (.literal "!"), .labelled "'?'" (.literal "?")]

/-- Letters and marks, after both ways have been used on a text without a mark. -/
theorem left_factoring_marks :
    marks ≠ [] ∧ ∃ s₀ s t₀ t,
      (start [] (.bindAll letter (.distributed (.var "letter") marks)) {} true).1 = .ok s₀ ∧
      (start [] (.bindAll letter (.factored (.var "letter") marks)) {} true).1 = .ok t₀ ∧
      Reaches s₀ s ∧ Reaches t₀ t ∧ s.store.tracker = t.store.tracker ∧
      s.store.tracker = ⟨some ⟨1, ["'!'", "'?'"]⟩⟩ ∧
      ∀ (input : List Char) (position : Nat) (step : Step) (tracker : Tracker),
        (∃ s', s.invoke input position = some (step, s') ∧ s'.store.tracker = tracker) ↔
          ∃ t', t.invoke input position = some (step, t') ∧ t'.store.tracker = tracker := by
  have hmarks : marks ≠ [] := List.cons_ne_nil _ _
  obtain ⟨s₀, store, hstart⟩ : ∃ s₀ store,
      start [] (.bindAll letter (.distributed (.var "letter") marks)) {} true = (.ok s₀, store) :=
    ⟨_, _, rfl⟩
  obtain ⟨t₀, store', hstart'⟩ : ∃ t₀ store,
      start [] (.bindAll letter (.factored (.var "letter") marks)) {} true = (.ok t₀, store) :=
    ⟨_, _, rfl⟩
  obtain ⟨s, step, hs, htracker⟩ : ∃ s step, s₀.invoke "x.".toList 0 = some (step, s) ∧
      s.store.tracker = ⟨some ⟨1, ["'!'", "'?'"]⟩⟩ := by
    cases hstart
    exact ⟨_, _, @invoke_of_run _ _ _ _ 20 _ _ rfl rfl, rfl⟩
  obtain ⟨t, step', ht, htracker'⟩ : ∃ t step, t₀.invoke "x.".toList 0 = some (step, t) ∧
      t.store.tracker = ⟨some ⟨1, ["'!'", "'?'"]⟩⟩ := by
    cases hstart'
    exact ⟨_, _, @invoke_of_run _ _ _ _ 20 _ _ rfl rfl, rfl⟩
  have hreach : Reaches s₀ s := .step .refl (.invoke hs)
  have hreach' : Reaches t₀ t := .step .refl (.invoke ht)
  have hsame : s.store.tracker = t.store.tracker := htracker.trans htracker'.symm
  exact ⟨hmarks, s₀, s, t₀, t, by rw [hstart], by rw [hstart'], hreach, hreach', hsame, htracker,
    ((left_factoring [] (.var "letter") marks hmarks).2 letter {} true).2 s₀ s t₀ t store store'
      hstart hstart' hreach hreach' hsame⟩

end Session

end Descent
